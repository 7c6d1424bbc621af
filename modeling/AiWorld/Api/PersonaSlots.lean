import Mathlib.Data.Finset.Card
import Mathlib.Data.Finset.Range
import AiWorld.Api.PersonaRule

set_option autoImplicit false

namespace AiWorld.Api

open AiWorld.Concurrency AiWorld.Database

variable {tenantId : Nat} {agentCode : String} {occupied : List Nat}

-- A slot INSERT is refused for the slot or for the persona.
theorem slot_refused {id : Nat} {row : AgentRuntimePersonaSlot} {db : Db} (fresh : db.lookup (.personaSlot id) = none)
    (fits : row.slot < personaSlotCap) (refused : schema.accepts (.personaSlot id) row db = false) :
    SlotTaken row.tenantId row.slot db ∨ HasSlot row.tenantId row.agentCode db := by
  by_contra neither
  obtain ⟨untaken, unclaimed⟩ := not_or.mp neither
  refine Bool.false_ne_true (refused.symm.trans (accepts_intro schema (.personaSlot id) row db (fun rival found stored => ?_)
    (decide_eq_true fits) (fun _ named => by cases named)))
  refine ⟨?_, fun entry occupied wanted => ?_⟩
  · rintro rfl
    cases fresh.symm.trans stored
  have mine : entry = .personaSlot row.tenantId row.slot ∨ entry = .personaCode row.tenantId row.agentCode := by
    simpa [schema, indexed] using wanted
  cases rival with
  | personaSlot place =>
      have theirs : entry = .personaSlot found.tenantId found.slot ∨ entry = .personaCode found.tenantId found.agentCode := by
        simpa [schema, indexed] using occupied
      rcases mine with rfl | rfl
      · have same : row.tenantId = found.tenantId ∧ row.slot = found.slot := by simpa using theirs
        exact untaken ⟨place, found, stored, same.1.symm, same.2.symm⟩
      · have same : row.tenantId = found.tenantId ∧ row.agentCode = found.agentCode := by simpa using theirs
        exact unclaimed ⟨place, found, stored, same.1.symm, same.2.symm⟩
  | _ =>
      have here := indexed_on _ found entry occupied
      rcases mine with rfl | rfl <;> cases here

-- One call of `ensure_persona`, and whether its transaction is committed afterwards.
structure PersonaCall where
  tenantId : Nat
  persona : PersonaDefinition
  keeps : Bool
deriving DecidableEq, Repr

abbrev CallResult := Except Failure (Loaded Agent × Bool)

-- The session ends: an exception rolls it back.
def endCall (call : PersonaCall) (outcome : CallResult) : Proc apiSig CallResult :=
  match outcome with
  | .ok _ => .act (.db (if call.keeps then .commit else .rollback)) (fun _ => .ret outcome)
  | .error _ => .act (.db .rollback) (fun _ => .ret outcome)

def personaCall (call : PersonaCall) : Proc apiSig CallResult := (ensurePersona call.tenantId call.persona).run >>= endCall call

abbrev PersonaSystem := Pool apiSig Sys CallResult PersonaCall

def personaStep (system : PersonaSystem) (action : Label Choice PersonaCall) : Option PersonaSystem :=
  system.step machine personaCall (.error (.unexpected "crash")) action

def personaBoot (db : Db) (nextId : Nat) : PersonaSystem := ⟨{ server := { db := db }, nextId := nextId }, []⟩

def claimRegime : Regime PersonaCall where
  rule := personaRule
  trans := persona_rule_trans
  guard := fun _ _ _ _ => True
  mayCrash := anyCrash
  extra := Slots
  promise := fun _ _ => True
  also := Newcomers
  also_refl := newcomers_refl
  also_trans := fun pid s t u _ => newcomers_trans pid s t u
  unbegun := fun _ _ => True
  stays_unbegun := fun _ _ _ _ _ => trivial
  crashed := fun pid s kept slots _ => ⟨(crash_slots pid s kept slots).1, trivial, (crash_slots pid s kept slots).2⟩

def claiming : Discipline machine PersonaCall := claimRegime.discipline

def capExceeded : Failure := .http 409 "persona_slot_cap_exceeded"

-- The refusal for want of a slot comes only when all slots are committed.
def Refusal (tenantId : Nat) (failure : Failure) (s : Sys) : Prop := failure = capExceeded → AllTaken tenantId s.db

section
variable {pid : Nat} {call : PersonaCall} {pre : Sys → Prop} {raised : Failure → Sys → Prop}

theorem claiming_guarantees (stmt : Stmt) {choice : Choice} (s t : Sys) (answer : Ans stmt) (inv : claiming.inv s)
    (lawful : Lawful pid stmt s) (executed : exec pid stmt choice s = some (answer, t)) : claiming.guarantee pid s t := by
  obtain ⟨slots, newcomers⟩ := lawful_step inv.1 inv.2 lawful executed
  exact Regime.guarantees stmt choice s t answer inv.1 (fun query issued => by
      subst issued
      exact persona_respects inv.1.2 lawful.1) ⟨slots, trivial, newcomers⟩ executed

theorem claiming_ask {stmt : Stmt} (post : Ans stmt → Sys → Prop) (stable : Stable claiming.toContract pid pre)
    (lawful : ∀ s, pre s → Kept personaRule s → Slots s → Lawful pid stmt s)
    (executes : ∀ s choice answer t, pre s → Kept personaRule s → Slots s → exec pid stmt choice s = some (answer, t) →
      post answer t) : Raises claiming.toContract pid call pre (ask stmt) post raised := by
  refine raises_ask (S := apiSig) stmt post stable (fun s choice answer t before inv _ executed => ?_)
  exact ⟨claiming_guarantees stmt s t answer inv (lawful s before inv.1 inv.2) executed,
    executes s choice answer t before inv.1 inv.2 executed⟩

theorem clean_stable_claiming : Stable claiming.toContract pid (Clean pid) :=
  fun _ _ clean moved _ => moved.1.undisturbed.staged.trans clean

-- A read by a transaction that has written nothing sees the committed rows.
theorem claiming_select {α : Type} {query : Db → α} (post : α → Sys → Prop) (stable : Stable claiming.toContract pid pre)
    (clean : ∀ s, pre s → Clean pid s) (reads : ∀ s, pre s → Slots s → post (query s.db) s) :
    Raises claiming.toContract pid call pre (select query) post raised := by
  refine raises_bind (fun (db : Db) s => post (query db) s)
    (claiming_ask _ stable (fun _ _ _ _ => ⟨trivial, trivial, nofun⟩)
      (fun s choice answer t before _ slots executed => ?_)) (fun db => raises_pure _ (fun _ holds => holds))
  obtain ⟨rfl, rfl⟩ := exec_select executed
  have holds := reads _ before slots
  rwa [← clean_view (clean _ before)] at holds

theorem claiming_new_id (stable : Stable claiming.toContract pid pre) (keeps : ∀ s, pre s → pre (s.takesId pid)) :
    Raises claiming.toContract pid call pre newId (fun id s => pre s ∧ Fresh pid id s) raised := by
  refine claiming_ask _ stable (fun _ _ _ _ => trivial) (fun s choice answer t before _ slots executed => ?_)
  cases executed
  exact ⟨keeps s before, takes_id_fresh pid slots.minted⟩

theorem claiming_fresh_stable (id : Nat) (stable : Stable claiming.toContract pid pre) :
    Stable claiming.toContract pid (fun s => pre s ∧ Fresh pid id s) := fun s t holds moved inv =>
  ⟨stable s t holds.1 moved inv, fresh_mine holds.2 moved.1.undisturbed moved.2.mine⟩

end

-- A search for a free slot, with the slots it has read as occupied.
structure Searching (pid tenantId : Nat) (occupied : List Nat) (s : Sys) : Prop where
  clean : Clean pid s
  taken : ∀ slot ∈ occupied, SlotTaken tenantId slot s.db

-- The slots read as occupied; each failed attempt adds one.
def occupancy (occupied : List Nat) : Nat := ((Finset.range personaSlotCap).filter (fun slot => slot ∈ occupied)).card

theorem occupancy_le (occupied : List Nat) : occupancy occupied ≤ personaSlotCap := by
  simpa [occupancy] using Finset.card_filter_le (Finset.range personaSlotCap) (fun slot => slot ∈ occupied)

theorem occupancy_grows {before : List Nat} (after : List Nat) {slot : Nat} (small : slot < personaSlotCap) (free : slot ∉ before)
    (grows : ∀ other ∈ before, other ∈ after) (taken : slot ∈ after) : occupancy before < occupancy after := by
  refine Finset.card_lt_card ((Finset.ssubset_iff_of_subset ?_).mpr ⟨slot, ?_, ?_⟩)
  · intro other member
    simp only [Finset.mem_filter] at member ⊢
    exact ⟨member.1, grows other member.2⟩
  · simpa using ⟨small, taken⟩
  · simp [free]

section
variable {pid : Nat} {call : PersonaCall} {pre : Sys → Prop}

theorem searching_stable (occupied : List Nat) :
    Stable claiming.toContract pid (Searching pid tenantId occupied) := fun s _ searching moved _ =>
  ⟨moved.1.undisturbed.staged.trans searching.clean, fun slot member =>
    slot_taken_moves s.db moved.1.committed slot (searching.taken slot member)⟩

theorem creating_stable : Stable claiming.toContract pid (Creating pid tenantId agentCode) :=
  fun _ _ creating moved inv => creating_steady inv.1.1 moved.1 creating

theorem created_stable (agentCode : String) : Stable claiming.toContract pid (Created pid tenantId agentCode) :=
  fun _ _ created moved inv => created_steady inv.1.1 moved.1 created

-- A transaction that may end with a commit.
def Ready (pid : Nat) (s : Sys) : Prop := Clean pid s ∨ ∃ tenantId agentCode, Created pid tenantId agentCode s

theorem ready_stable : Stable claiming.toContract pid (Ready pid) := by
  rintro s t (clean | ⟨tenantId, agentCode, created⟩) moved inv
  · exact .inl (clean_stable_claiming s t clean moved inv)
  · exact .inr ⟨tenantId, agentCode, created_stable agentCode s t created moved inv⟩

theorem ready_settles {s : Sys} (kept : Kept personaRule s) (slots : Slots s) (ready : Ready pid s) : Settles pid s := by
  rcases ready with clean | ⟨tenantId, agentCode, created⟩
  · refine ⟨?_, ?_⟩
    · rw [clean_view clean]
      exact slots.paired
    · rw [clean_view clean]
      exact fun _ _ has => .inl has
  · exact created_settles kept slots created

-- An INSERT has been refused.
def Beaten (pid tenantId slot : Nat) (agentCode : String) (occupied : List Nat) (s : Sys) : Prop :=
  Searching pid tenantId occupied s ∧ (SlotTaken tenantId slot s.db ∨ HasAgent tenantId agentCode s.db)

theorem beaten_stable (tenantId slot : Nat) :
    Stable claiming.toContract pid (Beaten pid tenantId slot agentCode occupied) := fun s t beaten moved inv =>
  ⟨searching_stable occupied s t beaten.1 moved inv,
    beaten.2.imp (slot_taken_moves s.db moved.1.committed slot) (has_agent_moves moved.1.committed _ _)⟩

variable {raised : Failure → Sys → Prop}

-- The INSERT of a slot read as free. If it is refused, the slot has been committed since,
-- or the persona has.
theorem claim_insert (tenantId slot id : Nat) (small : slot < personaSlotCap) :
    Raises claiming.toContract pid call (fun s => Searching pid tenantId occupied s ∧ Fresh pid id s)
      (tryInsert (.personaSlot id) ⟨tenantId, slot, agentCode⟩)
      (fun inserted s => if inserted then Creating pid tenantId agentCode s else Beaten pid tenantId slot agentCode occupied s)
      raised := by
  refine claiming_ask _ (claiming_fresh_stable id (searching_stable occupied))
    (fun s holds _ _ => ⟨trivial, fun other named => by cases named; exact holds.2.drawn, nofun⟩)
    (fun s choice answer t before _ slots executed => ?_)
  have onward := exec_onward _ s t answer nofun nofun executed
  rcases exec_insert executed with
    ⟨rfl, refused, same⟩ | ⟨rfl, -, view⟩
  · have db : t.db = s.db := onward.db
    rw [clean_view before.1.clean] at refused
    have why := slot_refused (before.2.unused (.personaSlot id) rfl) small refused
    refine ⟨⟨?_, db ▸ before.1.taken⟩, db ▸ why.imp_right ?_⟩
    · exact (congrArg (fun server : Server Row Index CloseCall => server.staged pid) same).trans before.1.clean
    · rintro ⟨place, row, stored, rfl, rfl⟩
      exact slots.paired place row stored
  · let row : AgentRuntimePersonaSlot := ⟨tenantId, slot, agentCode⟩
    refine ⟨holding_onward tenantId (.insert (.personaSlot id) row) s t trivial ⟨rfl, rfl⟩ onward
      (holding_clean tenantId agentCode before.1.clean), id, row, ?_, rfl, rfl⟩
    rw [view]
    exact AList.lookup_insert _


-- What `_claim_slot` leaves behind: a claimed slot, or nothing and somebody else's agent.
def Claimed (pid tenantId : Nat) (agentCode : String) (winner : Option (Loaded Agent) × Bool) (s : Sys) : Prop :=
  match winner.1 with
  | none => Creating pid tenantId agentCode s
  | some _ => Clean pid s

-- The attempts outlast the free slots: each failed one has read a further slot as taken.
theorem claim_slot_claims (attempts : Nat) (occupied : List Nat) (expired : Bool)
    (enough : personaSlotCap < attempts + occupancy occupied) :
    Raises claiming.toContract pid call (Searching pid tenantId occupied) (claimSlot tenantId agentCode attempts occupied expired)
      (Claimed pid tenantId agentCode) (Refusal tenantId) := by
  induction attempts generalizing occupied expired with
  | zero =>
      have bound := occupancy_le occupied
      omega
  | succ attempts ih =>
      unfold claimSlot
      split
      next full =>
        refine raises_throw _ (fun s searching _ slot small => searching.taken slot ?_)
        simpa using List.find?_eq_none.mp full slot (List.mem_range.mpr small)
      next slot found =>
        have small : slot < personaSlotCap := List.mem_range.mp (List.mem_of_find?_eq_some found)
        have free : slot ∉ occupied := by simpa using List.find?_some found
        refine raises_bind _ (claiming_new_id (searching_stable occupied) (fun s holds => ⟨holds.clean, holds.taken⟩)) (fun id => ?_)
        refine raises_bind _ (claim_insert tenantId slot id small) (fun (inserted : Bool) => ?_)
        cases inserted with
        | true => exact raises_pure _ (fun s creating => creating)
        | false =>
            refine raises_bind (fun _ => Beaten pid tenantId slot agentCode occupied) (claiming_ask _
              (beaten_stable tenantId slot) (fun _ _ _ _ => ⟨trivial, trivial, nofun⟩)
              (fun s choice answer t beaten _ _ executed => ?_)) (fun _ => ?_)
            · cases executed
              exact ⟨⟨by simp [Clean, Server.rollsBack], beaten.1.taken⟩, beaten.2⟩
            refine raises_bind (fun existing s => Searching pid tenantId occupied s ∧ (existing = none → SlotTaken tenantId slot s.db))
              (claiming_select _ (beaten_stable tenantId slot) (fun s beaten => beaten.1.clean)
                (fun s beaten _ => ⟨beaten.1, fun missing => beaten.2.resolve_right (agent_by_code_none agentCode missing)⟩))
              (fun existing => ?_)
            cases existing with
            | some agent => exact raises_pure _ (fun s holds => holds.1.clean)
            | none =>
                refine raises_bind (fun again s => Searching pid tenantId again s ∧ slot ∈ again ∧ ∀ other ∈ occupied, other ∈ again)
                  (claiming_select _ (fun s t holds moved inv => ⟨searching_stable occupied s t holds.1 moved inv,
                      fun missing => slot_taken_moves s.db moved.1.committed slot (holds.2 missing)⟩)
                    (fun s holds => holds.1.clean) (fun s holds _ => ?_)) (fun again => ?_)
                · exact ⟨⟨holds.1.clean, fun other member => (mem_occupied tenantId other s.db).mp member⟩,
                    (mem_occupied tenantId slot s.db).mpr (holds.2 rfl),
                    fun other member => (mem_occupied tenantId other s.db).mpr (holds.1.taken other member)⟩
                · intro s holds
                  have grown := occupancy_grows again small free holds.2.2 holds.2.1
                  exact ih again true (by omega) s holds.1

theorem taking_id_creating (s : Sys) (creating : Creating pid tenantId agentCode s) :
    Creating pid tenantId agentCode (s.takesId pid) :=
  ⟨⟨creating.holding.slots, creating.holding.agents⟩, creating.slot⟩

theorem taking_id_created (s : Sys) (created : Created pid tenantId agentCode s) :
    Created pid tenantId agentCode (s.takesId pid) :=
  ⟨taking_id_creating s created.creating, created.agent⟩

theorem integrity_refusal (tenantId : Nat) (s : Sys) : Refusal tenantId .integrity s := nofun

theorem insert_agent_creates (id : Nat) (agent : Agent) (owner : agent.tenantId = tenantId)
    (active : agent.lifecycleState = .active) :
    Raises claiming.toContract pid call (fun s => Creating pid tenantId agent.agentCode s ∧ Fresh pid id s)
      (insert (.agent id) agent) (fun _ => Created pid tenantId agent.agentCode) (Refusal tenantId) := by
  refine raises_bind (fun (inserted : Bool) s => inserted = true → Created pid tenantId agent.agentCode s) (claiming_ask _
    (claiming_fresh_stable id (creating_stable))
    (fun s holds _ _ => ⟨active, fun other named => by cases named; exact holds.2.drawn, nofun⟩)
    (fun s choice answer t before _ _ executed inserted => ?_)) (fun (inserted : Bool) => ?_)
  · have onward := exec_onward _ s t answer nofun nofun executed
    rcases exec_insert executed with ⟨refused, -, -⟩ | ⟨-, -, view⟩
    · exact absurd (refused.symm.trans inserted) Bool.false_ne_true
    · refine ⟨creating_onward tenantId (.insert (.agent id) agent) s t active ⟨owner, rfl⟩ onward before.1,
        id, agent, ?_, owner, rfl⟩
      rw [view]
      exact AList.lookup_insert _
  · cases inserted with
    | true => exact raises_pure _ (fun s holds => holds rfl)
    | false => exact raises_throw _ (fun s _ => integrity_refusal tenantId s)

-- Statements on other rows, with the persona complete.
theorem created_ask (tenantId : Nat) (query : Database.Stmt Row CloseCall) (writes : personaWrites query)
    (works : worksOn tenantId agentCode query) (goes : query ≠ .commit) (forward : query ≠ .rollback)
    (stable : Stable claiming.toContract pid pre) (has : ∀ s, pre s → Created pid tenantId agentCode s)
    (own : ∀ s, pre s → mints pid (.db query) s) :
    Raises claiming.toContract pid call pre (ask (.db query)) (fun _ => Created pid tenantId agentCode) raised :=
  claiming_ask _ stable (fun s before _ _ => ⟨writes, own s before, fun ends => absurd ends goes⟩)
    (fun s _ answer t before _ _ executed => created_onward writes works
      (exec_onward query s t answer goes forward executed) (has s before))

theorem create_persona_creates {policyId : Nat} {persona : PersonaDefinition} {expired : Bool} :
    Raises claiming.toContract pid call (Creating pid tenantId persona.agentCode) (createPersona tenantId persona policyId expired)
      (fun _ => Ready pid) (Refusal tenantId) := by
  refine raises_bind _ (claiming_new_id (creating_stable) (taking_id_creating))
    (fun id => ?_)
  refine raises_bind _ (insert_agent_creates id ⟨tenantId, persona.agentCode, persona.displayName, .active, none⟩ rfl rfl)
    (fun _ => ?_)
  refine raises_bind (fun _ => Created pid tenantId persona.agentCode) ?_ (fun _ => ?_)
  · cases expired with
    | true => exact raises_throw _ (fun s _ => nofun)
    | false => exact raises_pure _ (fun s created => created)
  refine raises_bind _ (claiming_new_id (created_stable persona.agentCode) (taking_id_created))
    (fun versionId => ?_)
  refine raises_bind (fun _ => Created pid tenantId persona.agentCode) (raises_bind (fun _ => Created pid tenantId persona.agentCode)
    (created_ask tenantId (.insert (.agentVersion versionId) ⟨id, 1, "external_manual", policyId⟩) trivial trivial nofun nofun
      (claiming_fresh_stable versionId (created_stable persona.agentCode)) (fun s holds => holds.1)
      (fun s holds other named => by cases named; exact holds.2.drawn)) (fun (inserted : Bool) => ?_)) (fun _ => ?_)
  · cases inserted with
    | true => exact raises_pure _ (fun s created => created)
    | false => exact raises_throw _ (fun s _ => integrity_refusal tenantId s)
  refine raises_bind (fun _ => Created pid tenantId persona.agentCode) (created_ask tenantId
    (.update (.agent id) _ (fun agent => { agent with activeVersionId := some versionId })) (fun _ => rfl) trivial nofun nofun
    (created_stable persona.agentCode) (fun s created => created) (fun _ _ => trivial)) (fun _ => ?_)
  exact raises_pure _ (fun s created => .inr ⟨tenantId, persona.agentCode, created⟩)

theorem ensure_persona_readies (tenantId : Nat) (persona : PersonaDefinition) :
    Raises claiming.toContract pid call (Clean pid) (ensurePersona tenantId persona) (fun _ => Ready pid) (Refusal tenantId) := by
  refine raises_bind (fun _ => Clean pid) (claiming_select _ clean_stable_claiming (fun _ clean => clean) (fun _ clean _ => clean))
    (fun existing => ?_)
  cases existing with
  | some agent => exact raises_pure _ (fun s clean => .inl clean)
  | none =>
      refine raises_bind (fun _ => Clean pid) (raises_bind (fun _ => Clean pid) (claiming_select _ clean_stable_claiming
        (fun _ clean => clean) (fun _ clean _ => clean)) (fun policy => ?_)) (fun policyId => ?_)
      · cases policy with
        | none => exact raises_throw _ (fun s _ => by simp [Refusal, capExceeded])
        | some policy => exact raises_pure _ (fun s clean => clean)
      refine raises_bind (fun occupied s => Searching pid tenantId occupied s) (claiming_select _ clean_stable_claiming
        (fun _ clean => clean) (fun s clean _ => ⟨clean, fun slot member => (mem_occupied tenantId slot s.db).mp member⟩))
        (fun occupied => ?_)
      refine raises_bind _ (claim_slot_claims maxClaimAttempts occupied false
        (by simp [maxClaimAttempts]; omega)) (fun winner => ?_)
      obtain ⟨found, expired⟩ := winner
      cases found with
      | some agent => exact raises_pure _ (fun s clean => .inl clean)
      | none => exact raises_bind _ (create_persona_creates) (fun agent => raises_pure _ (fun s ready => ready))

theorem end_call_ends (outcome : CallResult) :
    Triple claiming.toContract pid call (Concurrency.Ending (fun _ => Ready pid) (Refusal call.tenantId) outcome) (endCall call outcome)
      (fun result _ => result = outcome) := by
  have rolls : Triple claiming.toContract pid call (fun _ => True) (.act (.db .rollback) (fun _ => .ret outcome))
      (fun result _ => result = outcome) :=
    triple_act (S := apiSig) _ (fun _ _ => True) (fun _ _ _ _ _ => trivial)
      (fun s choice answer t _ inv _ executed =>
        ⟨claiming_guarantees (.db .rollback) s t answer inv ⟨trivial, trivial, nofun⟩ executed, trivial⟩) (fun _ _ _ => rfl)
  cases outcome with
  | error failure => exact fun s _ => rolls s trivial
  | ok agent =>
      unfold endCall
      cases call.keeps with
      | false => exact fun s _ => rolls s trivial
      | true =>
          exact triple_act (S := apiSig) _ (fun _ _ => True) ready_stable (fun s choice answer t ready inv _ executed =>
            ⟨claiming_guarantees (.db .commit) s t answer inv
              ⟨trivial, trivial, fun _ => ready_settles inv.1 inv.2 ready⟩ executed, trivial⟩) (fun _ _ _ => rfl)

theorem persona_call_safe (s : Sys) (clean : Clean pid s) :
    Safe claiming.toContract pid call (fun _ _ => True) (personaCall call) s :=
  safe_bind _ s (ensure_persona_readies call.tenantId call.persona s clean) (fun outcome t ending =>
    safe_weaken (fun _ _ _ => trivial) _ t (end_call_ends outcome t ending))

end

abbrev ClaimSound (system : PersonaSystem) : Prop := Sound claiming (fun _ _ _ _ => True) system

abbrev AnyCalls : PersonaSystem → Label Choice PersonaCall → Prop := Pool.Meets (fun _ => True) claiming.guard claiming.mayCrash

theorem claim_runs (system later : PersonaSystem) (actions : List (Label Choice PersonaCall))
    (run : Runs personaStep AnyCalls system actions later) (sound : ClaimSound system) : ClaimSound later :=
  runs_sound (D := claiming) (fun _ _ _ _ _ _ _ _ => trivial) (fun _ _ s _ _ idle => persona_call_safe s idle.1)
    (fun _ _ _ _ _ => trivial) run sound

theorem claim_boot (db : Db) (nextId : Nat) (distinct : Distinct schema db) (below : Below db nextId)
    (fits : ∀ id row, db.lookup (.personaSlot id) = some row → row.slot < personaSlotCap) (paired : Paired db) :
    ClaimSound (personaBoot db nextId) :=
  sound_start _ ⟨kept_boot _ db nextId [], unique_start distinct, boot_minted [] below, fits, paired⟩
    (fun _ => ⟨rfl, trivial⟩)

-- The committed slots of a tenant: numbers below 25, no two alike, at most one for a
-- persona, each with exactly one agent of its code.
structure Allocated (db : Db) : Prop where
  bounded : ∀ id row, db.lookup (.personaSlot id) = some row → row.slot < personaSlotCap
  distinct : ∀ id other row rival, db.lookup (.personaSlot id) = some row → db.lookup (.personaSlot other) = some rival →
    row.tenantId = rival.tenantId → row.slot = rival.slot ∨ row.agentCode = rival.agentCode → id = other
  agent : ∀ id row, db.lookup (.personaSlot id) = some row →
    ∃! agentId, ∃ agent, db.agent agentId = some agent ∧ agent.tenantId = row.tenantId ∧ agent.agentCode = row.agentCode

theorem slots_allocated (s : Sys) (slots : Slots s) : Allocated s.db where
  bounded := slots.valid
  distinct := fun id other row rival stored present owner same => by
    have one : ∀ entry, entry ∈ indexed (.personaSlot id) row → entry ∈ indexed (.personaSlot other) rival → id = other :=
      fun entry listed taken => by
        cases slots.unique.committed (.personaSlot id) row (.personaSlot other) rival entry stored present listed taken
        rfl
    rcases same with slot | code
    · exact one (.personaSlot row.tenantId row.slot) (by simp [indexed]) (by simp [indexed, owner, slot])
    · exact one (.personaCode row.tenantId row.agentCode) (by simp [indexed]) (by simp [indexed, owner, code])
  agent := fun id row stored => by
    obtain ⟨agentId, agent, present, owner, code⟩ := slots.paired id row stored
    refine ⟨agentId, ⟨agent, present, owner, code⟩, fun other holds => ?_⟩
    obtain ⟨rival, found, theirs, same⟩ := holds
    have clash := slots.unique.committed (.agent other) rival (.agent agentId) agent (.agentCode row.tenantId row.agentCode) found present
      (by simp [schema, indexed, theirs, same]) (by simp [schema, indexed, owner, code])
    cases clash
    rfl

-- In every run of any number of calls, for any personas of any tenants, whose
-- transactions commit, roll back or are cut off, from a database in which every slot has
-- its agent: the slots stay allocated in every committed state, and a call that ends
-- with the cap refusal raised it in a state in which all slots of its tenant were
-- committed.
theorem persona_slots_allocated (db : Db) (nextId : Nat) (distinct : Distinct schema db) (below : Below db nextId)
    (fits : ∀ id row, db.lookup (.personaSlot id) = some row → row.slot < personaSlotCap) (paired : Paired db)
    (actions : List (Label Choice PersonaCall)) (system : PersonaSystem)
    (run : Runs personaStep Anything (personaBoot db nextId) actions system) :
    Allocated system.shared.db ∧
    ∀ pid call, Label.crash pid ∉ actions → system.procs[pid]? = some (call, .ret (.error capExceeded)) →
      ∃ front back between, actions = front ++ back ∧ Runs personaStep Anything (personaBoot db nextId) front between ∧
        Runs personaStep Anything between back system ∧ between.procs[pid]? = some (call, endCall call (.error capExceeded)) ∧
        AllTaken call.tenantId between.shared.db := by
  have met : Runs personaStep AnyCalls (personaBoot db nextId) actions system :=
    runs_weaken (fun pool action _ => Pool.meets_always (fun _ => trivial) (fun _ _ _ _ => trivial) (fun _ _ => trivial) pool action) run
  have anything : ∀ {s t : PersonaSystem} {labels : List (Label Choice PersonaCall)}, Runs personaStep AnyCalls s labels t →
      Runs personaStep Anything s labels t := fun run => runs_weaken (fun _ _ _ => trivial) run
  have start := claim_boot db nextId distinct below fits paired
  refine ⟨slots_allocated system.shared (claim_runs _ _ actions met start).inv.2, fun pid call alive ended => ?_⟩
  obtain ⟨front, back, before, rfl, reached, rfl, -, after⟩ := runs_entered met pid call _ (Nat.zero_le _) ended
  have alone := claim_runs _ _ front reached start
  let entered : PersonaSystem := ⟨before.shared, before.procs ++ [(call, personaCall call)]⟩
  have arrives : Runs personaStep AnyCalls before [.arrive call] entered := .cons _ _ _ _ _ trivial rfl (.nil _)
  have sound : ClaimSound entered := claim_runs _ _ _ arrives alone
  have unharmed : Label.crash before.procs.length ∉ back := fun member => alive (by simp [member])
  obtain ⟨early, late, between, outcome, rfl, first, second, passes, ending⟩ := runs_passes (D := claiming)
    (fun _ _ _ _ _ _ _ _ => trivial) (fun _ _ s _ _ idle => persona_call_safe s idle.1) (fun _ _ _ _ _ => trivial)
    before.procs.length call _ (endCall call) _ after sound _ (by simp [personaCall])
    (ensure_persona_readies call.tenantId call.persona before.shared (alone.idle _ le_rfl).1) unharmed ended
  obtain ⟨-, -, -, -, -, -, same⟩ := runs_delivers (D := claiming) (fun _ _ _ _ _ _ _ _ => trivial)
    (fun _ _ s _ _ idle => persona_call_safe s idle.1) (fun _ _ _ _ _ => trivial) before.procs.length call
    (fun result _ => result = outcome) _ second (claim_runs _ _ early first sound) _ passes (end_call_ends outcome between.shared ending)
    (fun member => unharmed (by simp [member])) ended
  subst same
  refine ⟨front ++ .arrive call :: early, late, between, by simp, anything ?_, anything second, passes, ending rfl⟩
  exact runs_append reached (.cons _ entered _ _ _ trivial rfl first)

-- Two personas race for slot 0; the loser tries slot 1, fails on an expired instance and
-- is rolled back, and a later call of it succeeds.
def personaDesk : Db := (∅ : Db).insert (.modelPolicy 0) ⟨1, "claude-code-external"⟩

def plannerCall : PersonaCall := ⟨1, resolvePersona (some "planner"), true⟩

def collidingCalls : List (Label Choice PersonaCall) :=
  .arrive ⟨1, generalPersona, true⟩ :: .arrive plannerCall :: List.replicate 3 (.step 0 {}) ++ List.replicate 3 (.step 1 {}) ++
    List.replicate 8 (.step 0 {}) ++ List.replicate 10 (.step 1 {}) ++ .arrive plannerCall :: List.replicate 11 (.step 2 {})

theorem colliding_claims_stay_allocated :
    ∃ system, Runs personaStep Anything (personaBoot personaDesk 10) collidingCalls system ∧
      occupiedPersonaSlots 1 system.shared.db = [1, 0] ∧ Allocated system.shared.db := by
  obtain ⟨system, run, shown⟩ := runs_exhibit personaStep (fun system => occupiedPersonaSlots 1 system.shared.db = [1, 0])
    (personaBoot personaDesk 10) collidingCalls (by decide +kernel)
  have none : ∀ id row, personaDesk.lookup (.personaSlot id) ≠ some row := fun id row stored => by
    rw [personaDesk, AList.lookup_insert_ne (by simp)] at stored
    cases stored
  exact ⟨system, run, by simpa using shown, (persona_slots_allocated personaDesk 10
    (distinct_of_rows schema personaDesk (by decide +kernel)) (below_of_rows personaDesk 10 (by decide +kernel))
    (fun id row stored => absurd stored (none id row)) (fun id row stored => absurd stored (none id row)) collidingCalls system run).1⟩

end AiWorld.Api
