import AiWorld.Api.SubagentRuns

set_option autoImplicit false

namespace AiWorld.Api

open AiWorld.Concurrency AiWorld.Database

variable {agentId id missionId parentId policyId slotId taskId tenantId : Nat} {payload : SubagentPayload} {request : Request}
  {s : Sys} {key : Key} {persona : PersonaDefinition}

abbrev Boards (start : Db) (assigned : Nat → Option Request) (pid : Nat) (user : User) (payload : SubagentPayload) {α : Type}
    (pre : Sys → Prop) (program : Route α) (post : α → Sys → Prop) (raised : Failure → Sys → Prop) : Prop :=
  Raises (sighting start assigned).toContract pid (.registerSubagent user payload) pre program post raised

theorem after_agent_slot (listed : afterAgent key = true) : afterSlot key = true := by
  cases key with
  | agent id => rfl
  | _ => exact listed

theorem after_persona_agent (key : Key) (listed : afterPersona key = true) : afterAgent key = true := by
  cases key with
  | agentVersion id => rfl
  | _ => exact listed

section
variable {start : Db} {assigned : Nat → Option Request} {pid : Nat} {user : User} {payload : SubagentPayload}
  {raised : Failure → Sys → Prop}
variable {agentCode : String}

theorem slotted_takes_id {slotId policyId : Nat} (minted : Minted s)
    (slotted : Slotted pid tenantId agentCode slotId policyId s) :
    Slotted pid tenantId agentCode slotId policyId (s.takesId pid) where
  unpublished := takes_id_unpublished minted slotted.unpublished
  untouched := slotted.untouched
  creating := ⟨⟨slotted.creating.holding.slots, slotted.creating.holding.agents⟩, slotted.creating.slot⟩
  drawn := (takes_id_mine pid s pid minted).drawn slotId slotted.drawn
  slot := slotted.slot
  agentless := slotted.agentless
  policy := slotted.policy

theorem insert_agent_boards :
    Boards start assigned pid user payload
      (fun s => Slotted pid tenantId persona.agentCode slotId policyId s ∧ Fresh pid id s)
      (insert (.agent id) ⟨tenantId, persona.agentCode, persona.displayName, .active, none⟩)
      (fun _ => Aboard pid ⟨afterAgent, [.agent id, .modelPolicy policyId], [], [id]⟩) raised := by
  let row : Agent := ⟨tenantId, persona.agentCode, persona.displayName, .active, none⟩
  refine raises_bind (fun (inserted : Bool) s => inserted = true ∧ Aboard pid ⟨afterAgent, [.agent id, .modelPolicy policyId], [], [id]⟩ s)
    (sight_ask (.db (.insert (.agent id) row)) (fresh_stable_sighting (slotted_stable))
      (fun s holds _ => ⟨rfl, fun other same => by cases same; exact holds.2.drawn, nofun⟩)
      (fun mine => ⟨_, mine, True.intro⟩) (fun s choice answer t before inv after _ _ executed => ?_)) (fun (inserted : Bool) => ?_)
  · obtain ⟨slotted, fresh⟩ := before
    have onward := exec_onward _ s t answer nofun nofun executed
    have moved := persona_own_view pid (.insert (.agent id) row) t.server rfl onward
    have drawn : t.drawn = s.drawn := by
      obtain ⟨_, -, same⟩ := Option.map_eq_some_iff.mp executed
      cases same
      rfl
    have agentless : ¬ HasAgent tenantId persona.agentCode (s.server.view pid) := by
      rintro ⟨other, agent, seen, named⟩
      exact slotted.agentless ⟨other, agent, (slotted.untouched (.agent other) rfl).symm.trans seen, named⟩
    rcases exec_insert executed with ⟨-, refused, -⟩ | ⟨inserted, -, view⟩
    · have accepted := agent_accepted row (fresh.unseen (.agent id) rfl) rfl agentless
      exact absurd (refused.symm.trans accepted) Bool.false_ne_true
    have here : (t.server.view pid).lookup (.agent id) = some row := by
      rw [view]
      exact AList.lookup_insert _
    have created : Created pid tenantId persona.agentCode t :=
      ⟨creating_onward tenantId (.insert (.agent id) row) s t rfl ⟨rfl, rfl⟩ onward slotted.creating,
        id, row, here, rfl, rfl⟩
    refine ⟨inserted, unpublished_same onward.db drawn slotted.unpublished,
      created_settles after.1 after.2.slots created,
      untouched_onward onward (fun write issued => by cases issued; rfl)
        (fun key listed => slotted.untouched key (after_agent_slot listed)), ?_, fun _ member => (by cases member), ?_⟩
    · intro key member
      have which : key = .agent id ∨ key = .modelPolicy policyId := by simpa using member
      rcases which with rfl | rfl
      · exact Option.isSome_of_eq_some here
      · exact present_moves moved _ slotted.policy
    · intro number member
      rw [List.mem_singleton.mp member, drawn]
      exact fresh.drawn
  · cases inserted with
    | true => exact raises_pure _ (fun s holds => holds.2)
    | false => exact raises_throw _ (fun s holds => by cases holds.1)

-- Nobody has a version of an agent that is not committed.
theorem insert_version_boards :
    Boards start assigned pid user payload
      (fun s => Aboard pid ⟨afterAgent, [.agent agentId, .modelPolicy policyId], [], [agentId]⟩ s ∧ Fresh pid id s)
      (insert (.agentVersion id) ⟨agentId, 1, "external_manual", policyId⟩)
      (fun _ => Aboard pid ⟨afterPersona, [.agent agentId], [], []⟩) raised := by
  refine raises_weaken (aboard_insert afterPersona (.agentVersion id)
    ⟨agentId, 1, "external_manual", policyId⟩ id rfl rfl rfl after_persona_agent (fun _ => True.intro)
    (fun s aboard fresh _ sights _ => ?_)) (fun _ holds => holds) (fun _ s aboard => ?_) (fun _ _ never => never)
  · refine version_accepted (fresh.unseen (.agentVersion id) rfl) (aboard.present _ (by simp))
      (aboard.present _ (by simp)) (fun other found seen same => ?_)
    rw [aboard.untouched (.agentVersion other) rfl] at seen
    have stored := sights.versions other found seen
    rw [show found.agentId = agentId from same] at stored
    have absent := aboard.unpublished (.agent agentId) agentId rfl (aboard.drawn agentId (by simp))
    rw [Db.agent, absent] at stored
    cases stored
  · refine aboard_less ?_ ?_ (fun _ member => by cases member) (fun _ member => by cases member) aboard
    · exact fun _ listed => listed
    · simp

theorem create_persona_boards :
    Boards start assigned pid user payload
      (Slotted pid tenantId persona.agentCode slotId policyId) (createPersona tenantId persona policyId false)
      (fun agent s => agent.2.lifecycleState = .active ∧ Aboard pid ⟨afterPersona, [.agent agent.1], [], []⟩ s) raised := by
  unfold createPersona
  refine raises_bind _ (sight_new_id (slotted_stable) (fun s slotted sights =>
    slotted_takes_id sights.slots.minted slotted)) (fun id => ?_)
  refine raises_bind _ (insert_agent_boards) (fun _ => ?_)
  refine raises_bind (fun _ => Aboard pid ⟨afterAgent, [.agent id, .modelPolicy policyId], [], [id]⟩)
    (raises_pure () (fun _ holds => holds)) (fun _ => ?_)
  refine raises_bind _ (aboard_new_id) (fun versionId => ?_)
  refine raises_bind _ (insert_version_boards) (fun _ => ?_)
  refine raises_bind _ (aboard_within (fun _ => rfl) nofun nofun (fun _ _ same => by cases same)
    (fun write issued => by cases issued; rfl)) (fun _ => raises_pure _ (fun s aboard => ⟨rfl, aboard⟩))

-- A policy that was there is there, and the one read is there.
theorem resolve_policy_sights
    (seeded : ∃ id row, start.modelPolicy id = some row ∧ row.tenantId = tenantId ∧ row.name = "claude-code-external") :
    Boards start assigned pid user payload (Missing pid tenantId agentCode)
      (resolveClaudeCodeExternalPolicy tenantId) (fun policyId => Provided pid tenantId agentCode policyId) raised := by
  refine raises_bind (fun policy s => ∃ found : Loaded ModelPolicy, policy = some found ∧ Provided pid tenantId agentCode found.1 s)
    (sight_select _ (missing_stable) (fun s missing => missing.begun.clean) (fun s missing inv _ => ?_))
    (fun policy => ?_)
  · obtain ⟨id, row, stored, owner, name⟩ := seeded
    have present := kept_moves s.db inv.2.since ⟨.modelPolicy id, row⟩ rfl stored
    have reads : (s.db.modelPolicies.find? (fun policy =>
        policy.2.tenantId = tenantId ∧ policy.2.name = "claude-code-external")).isSome = true :=
      List.find?_isSome.mpr ⟨(id, row), (mem_model_policies s.db (id, row)).mpr present, by simp [owner, name]⟩
    obtain ⟨found, read⟩ := Option.isSome_iff_exists.mp reads
    refine ⟨found, read, missing, ?_⟩
    have member := (mem_model_policies s.db found).mp (List.mem_of_find?_eq_some read)
    exact Option.isSome_of_eq_some member
  · cases policy with
    | none => exact fun s holds => by obtain ⟨_, none, -⟩ := holds; cases none
    | some policy =>
        refine raises_pure _ (fun s holds => ?_)
        obtain ⟨_, same, provided⟩ := holds
        cases same
        exact provided

end

section
variable {start : Db} {tenantId : Nat} {codes : List String} {assigned : Nat → Option Request} {pid : Nat} {user : User}
  {payload : SubagentPayload} {raised : Failure → Sys → Prop} (enrolled : Enrolled start tenantId codes assigned)
  (mine : assigned pid = some (.registerSubagent user payload)) (paired : Paired start)
include enrolled mine

theorem enrolled_authors (slot id : Nat) :
    authors (.registerSubagent user payload) (.personaSlot id) ⟨tenantId, slot, personaCode payload⟩ :=
  ⟨(enrolled_admissible enrolled mine).tenant.symm, rfl⟩

-- As long as a persona has no agent, a slot is free for it.
include paired in
theorem slot_free (sights : Sights start assigned s) (unpublished : Unpublished pid s)
    (absent : ¬ HasAgent tenantId (personaCode payload) start) :
    ∃ slot, slot < personaSlotCap ∧ slot ∉ occupiedPersonaSlots tenantId s.db := by
  by_contra none
  have full : AllTaken tenantId s.db := fun slot small => by
    by_contra free
    exact none ⟨slot, small, fun taken => free ((mem_occupied tenantId slot s.db).mp taken)⟩
  have listed := slot_listed enrolled sights
  rcases enrolled.spare with fewer | apart
  · exact absurd (full_slots sights.slots.unique.committed full listed) (Nat.not_le.mpr fewer)
  · have code := (enrolled_admissible enrolled mine).code
    have without : ∀ id row, s.db.lookup (.personaSlot id) = some row → row.tenantId = tenantId →
        row.agentCode ∈ codes.erase (personaCode payload) := fun id row stored owner =>
      (List.mem_erase_of_ne (slot_unclaimed enrolled sights mine unpublished apart absent paired stored owner)).mpr
        (listed id row stored owner)
    have many := full_slots sights.slots.unique.committed full without
    rw [List.length_erase_of_mem code] at many
    have fit := enrolled.fit
    have some := List.length_pos_of_mem code
    omega

-- The persona that is found is one that may work.
theorem found_persona_active (sights : Sights start assigned s) {agent : Loaded Agent}
    (found : getAgentByCode tenantId (personaCode payload) s.db = some agent) : agent.2.lifecycleState ≠ .suspended := by
  obtain ⟨stored, owner, code⟩ := (get_agent_iff sights.slots.unique.committed tenantId _ agent).mp found
  have moved := sights.since (.agent agent.1)
  rw [show s.db.lookup (.agent agent.1) = some agent.2 from stored] at moved
  have admissible := enrolled_admissible enrolled mine
  cases before : start.lookup (.agent agent.1) with
  | none =>
      rw [moved.2 agent.2 rfl before]
      exact nofun
  | some old =>
      have kept := moved.1
      rw [before] at kept
      have same : agent.2 = { old with activeVersionId := agent.2.activeVersionId } := kept
      rw [same]
      refine admissible.persona agent.1 old before ?_ ?_
      · rw [admissible.tenant, ← owner, same]
      · rw [← code, same]

include paired in
theorem claim_and_create_boards (absent : ¬ HasAgent tenantId (personaCode payload) start) :
    Boards start assigned pid user payload
      (Provided pid tenantId (personaCode payload) policyId)
      (claimAndCreate tenantId (resolvePersona payload.agentType) policyId)
      (fun ensured s => ensured.2 = false ∧ ensured.1.2.lifecycleState = .active ∧
        Aboard pid ⟨afterPersona, [.agent ensured.1.1], [], []⟩ s) raised := by
  refine raises_bind (fun occupied s => (∃ slot, slot < personaSlotCap ∧ slot ∉ occupied) ∧
      Provided pid tenantId (personaCode payload) policyId s)
    (sight_select _ (provided_stable (personaCode payload) policyId) (fun s provided => provided.missing.begun.clean)
      (fun s provided inv _ => ⟨slot_free enrolled mine paired inv.2 provided.missing.begun.unpublished absent, provided⟩))
    (fun occupied s holds => ?_)
  have claims : Boards start assigned pid user payload _ _ _ raised :=
    claim_sights policyId holds.1 (fun slot id _ => enrolled_authors enrolled mine slot id)
  refine raises_bind _ claims (fun winner => ?_) s holds.2
  rintro s ⟨rfl, slotId, slotted⟩
  refine raises_bind _ (create_persona_boards)
    (fun agent => raises_pure _ (fun s holds => ⟨rfl, holds⟩)) s slotted

include paired in
theorem ensure_persona_boards :
    Boards start assigned pid user payload (Begun pid)
      (ensurePersona tenantId (resolvePersona payload.agentType))
      (fun ensured s => ensured.2 = false ∧ ensured.1.2.lifecycleState ≠ .suspended ∧
        Aboard pid ⟨afterPersona, [.agent ensured.1.1], [], []⟩ s) raised := by
  refine raises_bind (fun existing s => existing.elim
      (Missing pid tenantId (personaCode payload) s ∧ ¬ HasAgent tenantId (personaCode payload) start)
      (fun agent => agent.2.lifecycleState ≠ .suspended ∧ Aboard pid ⟨afterPersona, [.agent agent.1], [], []⟩ s))
    (sight_select _ begun_stable (fun s begun => begun.clean) (fun s begun inv _ => ?_)) (fun existing => ?_)
  · cases found : getAgentByCode tenantId (resolvePersona payload.agentType).agentCode s.db with
    | none =>
        have absent := agent_by_code_none _ found
        exact ⟨⟨begun, fun has => absurd has absent⟩, fun has => absent (has_agent_moves inv.2.since _ _ has)⟩
    | some agent =>
        refine ⟨found_persona_active enrolled mine inv.2 found, begun.unpublished, settles_clean inv.2.slots begun.clean,
          fun key _ => by rw [clean_view begun.clean]; rfl, fun key member => ?_, fun _ member => (by cases member),
          fun _ member => (by cases member)⟩
        rw [List.mem_singleton.mp member, clean_view begun.clean]
        exact Option.isSome_of_eq_some ((get_agent_iff inv.2.slots.unique.committed tenantId _ agent).mp found).1
  · cases existing with
    | some agent => exact raises_pure _ (fun s holds => ⟨rfl, holds⟩)
    | none =>
        intro s holds
        refine raises_bind _ (resolve_policy_sights enrolled.policy) (fun policyId => ?_) s holds.1
        refine raises_weaken (claim_and_create_boards enrolled mine paired holds.2) (fun _ provided => provided)
          (fun ensured s made => ⟨made.1, ?_, made.2.2⟩) (fun _ _ failed => failed)
        rw [made.2.1]
        decide

-- A row that was there at the start is seen.
omit enrolled mine in
theorem since_seen (kept : Kept personaRule s) (sights : Sights start assigned s)
    (stored : (start.lookup key).isSome = true) : ((s.server.view pid).lookup key).isSome = true :=
  present_moves (kept.2 pid) key (present_moves sights.since key stored)

def createdTask (missionId agentId : Nat) (payload : SubagentPayload) : Task :=
  ⟨missionId, agentId, .queued, 0, subagentIdempotencyKey missionId payload.externalInstanceRef, none⟩

-- The runtime row and its task are in the transaction.
def Recorded (pid : Nat) (user : User) (payload : SubagentPayload) (missionId agentId : Nat) (created : Nat × Nat) (s : Sys) : Prop :=
  ∃ time parentId, Aboard pid ⟨fun _ => false, [.task created.2, .agent agentId],
    [⟨.session created.1, newSubagent user.tenantId agentId missionId created.2 time payload.parentExternalSessionRef
        payload.externalInstanceRef parentId⟩, ⟨.task created.2, createdTask missionId agentId payload⟩], []⟩ s

theorem insert_task_boards (parent : LiveParent start user payload parentId missionId) :
    Boards start assigned pid user payload
      (fun s => Aboard pid ⟨afterPersona, [.agent agentId], [], []⟩ s ∧ Fresh pid taskId s)
      (insert (.task taskId) (createdTask missionId agentId payload))
      (fun _ => Aboard pid ⟨afterTask, [.task taskId, .agent agentId], [⟨.task taskId, createdTask missionId agentId payload⟩], []⟩)
      raised := by
  have narrower : ∀ key, afterTask key = true → afterPersona key = true := fun key listed => by
    cases key with
    | session id => rfl
    | _ => cases listed
  refine raises_weaken (aboard_insert afterTask (.task taskId)
    (createdTask missionId agentId payload) taskId rfl rfl rfl narrower (fun _ => ⟨missionId, rfl⟩)
    (fun s aboard fresh kept sights _ => ?_)) (fun _ holds => holds) (fun _ s aboard => ?_) (fun _ _ failed => failed)
  · refine task_accepted (fresh.unseen (.task taskId) rfl)
      (since_seen kept sights parent.mission) (aboard.present (.agent agentId) (by simp)) (fun other found seen => ?_)
    rw [aboard.untouched (.task other) rfl] at seen
    exact task_unseen enrolled sights mine aboard.unpublished parent seen
  · refine aboard_less ?_ ?_ ?_ (fun _ member => by cases member) aboard
    · exact fun _ listed => listed
    · exact fun _ member => member
    · exact fun _ member => member

theorem insert_session_boards {time : Nat} (parent : LiveParent start user payload parentId missionId) :
    Boards start assigned pid user payload
      (fun s => Aboard pid ⟨afterTask, [.task taskId, .agent agentId], [⟨.task taskId, createdTask missionId agentId payload⟩], []⟩ s ∧
        Fresh pid id s)
      (insert (.session id) (newSubagent user.tenantId agentId missionId taskId time payload.parentExternalSessionRef
        payload.externalInstanceRef parentId))
      (fun _ => Recorded pid user payload missionId agentId (id, taskId)) raised := by
  refine raises_weaken (aboard_insert
    (fun _ => false) (.session id) (newSubagent user.tenantId agentId missionId taskId time payload.parentExternalSessionRef
      payload.externalInstanceRef parentId) id rfl rfl rfl (fun _ never => by cases never) (fun _ => ⟨rfl, rfl⟩)
    (fun s aboard fresh kept sights _ => ?_)) (fun _ holds => holds) (fun _ s aboard => ⟨time, parentId, ?_⟩) (fun _ _ failed => failed)
  · refine subagent_accepted payload.externalInstanceRef (fresh.unseen (.session id) rfl) rfl rfl
      (fun reference named => ?_) (fun other found seen owner kind => ?_)
    · have which : reference = .agent agentId ∨ reference = .mission missionId ∨ reference = .task taskId ∨
          reference = .session parentId := by simpa [references, newSubagent, or_assoc] using named
      rcases which with rfl | rfl | rfl | rfl
      · exact aboard.present _ (by simp)
      · exact since_seen kept sights parent.mission
      · exact aboard.present _ (by simp)
      · obtain ⟨row, stored, -⟩ := parent.stored
        exact since_seen kept sights (Option.isSome_of_eq_some stored)
    · rw [aboard.untouched (.session other) rfl] at seen
      exact ref_unseen enrolled sights mine aboard.unpublished seen owner kind
  · refine aboard_less ?_ ?_ ?_ (fun _ member => by cases member) aboard
    · exact fun _ listed => listed
    · exact fun _ member => List.mem_cons_of_mem _ member
    · exact fun _ member => member

theorem create_subagent_records (parent : LiveParent start user payload parentId missionId) :
    Boards start assigned pid user payload
      (Aboard pid ⟨afterPersona, [.agent agentId], [], []⟩) (createSubagent user.tenantId agentId missionId parentId payload)
      (fun created => Recorded pid user payload missionId agentId created) raised := by
  unfold createSubagent
  refine raises_bind _ (aboard_new_id) (fun taskId => ?_)
  refine raises_bind _ (insert_task_boards enrolled mine parent) (fun _ => ?_)
  refine raises_bind _ (aboard_new_id) (fun id => ?_)
  refine raises_bind (fun _ s => Aboard pid ⟨afterTask, [.task taskId, .agent agentId],
    [⟨.task taskId, createdTask missionId agentId payload⟩], []⟩ s ∧ Fresh pid id s) ?_ (fun time => ?_)
  · exact sight_ask .now (fresh_stable_sighting (aboard_stable _)) (fun _ _ _ => trivial) (fun _ => trivial)
      (fun s choice answer t before _ _ _ _ executed => by cases executed; exact before)
  · exact raises_bind _ (insert_session_boards enrolled mine parent)
      (fun _ => raises_pure _ (fun _ holds => holds))

omit enrolled mine in
theorem publish_records {eventType : EventType} {created : Nat × Nat}
    (parent : LiveParent start user payload parentId missionId) :
    Boards start assigned pid user payload (Recorded pid user payload missionId agentId created)
      (publish eventType user.tenantId (some missionId) (some created.2) (some agentId))
      (fun _ => Recorded pid user payload missionId agentId created) raised := by
  rintro s ⟨time, parentRow, aboard⟩
  refine raises_bind _ (aboard_new_id) (fun id => ?_) s aboard
  refine raises_weaken (aboard_insert (fun _ => false) (.event id) _ id rfl rfl rfl (fun _ never => by cases never) (fun _ => True.intro)
    (fun s aboard fresh kept sights _ => ?_)) (fun _ holds => holds) (fun _ s aboard => ⟨time, parentRow, ?_⟩) (fun _ _ failed => failed)
  · refine event_accepted (fresh.unseen (.event id) rfl) ?_ ?_ ?_
    · rintro _ ⟨⟩
      exact since_seen kept sights parent.mission
    · rintro _ ⟨⟩
      exact aboard.present (.task created.2) (by simp)
    · rintro _ ⟨⟩
      exact aboard.present (.agent agentId) (by simp)
  · refine aboard_less ?_ ?_ ?_ (fun _ member => by cases member) aboard
    · exact fun _ listed => listed
    · exact fun _ member => List.mem_cons_of_mem _ member
    · exact fun _ member => List.mem_cons_of_mem _ member

theorem register_as_records {persona : Loaded Agent} (parent : LiveParent start user payload parentId missionId)
    (active : persona.2.lifecycleState ≠ .suspended) :
    Boards start assigned pid user payload
      (Aboard pid ⟨afterPersona, [.agent persona.1], [], []⟩) (registerAs user payload parentId missionId persona false)
      (fun reply s => ∃ created, reply = .created created.1 ∧ Recorded pid user payload missionId persona.1 created s)
      (fun _ _ => False) := by
  unfold registerAs
  split
  next suspended => exact absurd suspended active
  next =>
    refine raises_bind (fun result s => ∃ created, result = .inl created ∧ Recorded pid user payload missionId persona.1 created s)
      (raises_catch (fun _ _ => False) (raises_map Sum.inl (raises_weaken
        (create_subagent_records enrolled mine parent) (fun _ holds => holds)
        (fun created s recorded => ⟨created, rfl, recorded⟩) (fun _ _ never => never))) (fun _ _ never => never.elim)) (fun result => ?_)
    rintro s ⟨created, rfl, recorded⟩
    refine raises_bind (fun _ => Recorded pid user payload missionId persona.1 created) (raises_pure () (fun _ holds => holds))
      (fun _ => ?_) s recorded
    refine raises_bind _ (publish_records parent) (fun _ => ?_)
    refine raises_bind _ (publish_records parent) (fun _ => ?_)
    exact raises_pure _ (fun s recorded => ⟨created, rfl, recorded⟩)

-- The parent is found as it was at the start.
theorem parent_found (sights : Sights start assigned s) :
    ∃ parentId missionId row, LiveParent start user payload parentId missionId ∧
      getSession user.tenantId payload.parentExternalSessionRef s.db = some (parentId, row) ∧
      row.missionId = some missionId ∧ row.endedAt = none := by
  obtain ⟨parentId, missionId, parent⟩ := (enrolled_admissible enrolled mine).parent
  obtain ⟨row, stored, owner, kind, named, mission, live⟩ := parent.stored
  have present := kept_moves s.db sights.since ⟨.session parentId, row⟩ rfl stored
  exact ⟨parentId, missionId, row, parent, (get_session_iff sights.slots.unique.committed user.tenantId _ (parentId, row)).mpr
    ⟨present, owner, kind, named⟩, mission, live⟩

include paired in
theorem register_new_records :
    Boards start assigned pid user payload (Begun pid) (registerNewSubagent user payload)
      (fun reply s => ∃ missionId agentId created, reply = .created created.1 ∧ Recorded pid user payload missionId agentId created s)
      (fun _ _ => False) := by
  refine raises_bind (fun found s => (∃ parentId missionId row, LiveParent start user payload parentId missionId ∧
      found = some (parentId, row) ∧ row.missionId = some missionId ∧ row.endedAt = none) ∧ Begun pid s)
    (sight_select _ begun_stable (fun s begun => begun.clean) (fun s begun inv _ =>
      ⟨parent_found enrolled mine inv.2, begun⟩)) (fun found => ?_)
  rintro s ⟨⟨parentId, missionId, row, parent, rfl, mission, live⟩, begun⟩
  simp only [mission, live]
  have tenant := (enrolled_admissible enrolled mine).tenant
  refine raises_bind _ (tenant ▸ ensure_persona_boards enrolled mine paired) (fun ensured => ?_) s begun
  rintro s ⟨fresh, active, aboard⟩
  rw [fresh]
  refine raises_weaken (register_as_records enrolled mine parent active) (fun _ holds => holds)
    (fun reply s recorded => ⟨missionId, ensured.1.1, recorded⟩) (fun _ _ never => never) s aboard

include paired in
theorem register_subagent_records :
    Boards start assigned pid user payload (Begun pid) (registerSubagent user payload)
      (fun reply s => ∃ missionId agentId created, reply = .created created.1 ∧ Recorded pid user payload missionId agentId created s)
      (fun _ _ => False) := by
  refine raises_bind (fun existing s => existing = none ∧ Begun pid s)
    (sight_select _ begun_stable (fun s begun => begun.clean) (fun s begun inv _ => ⟨?_, begun⟩)) (fun existing => ?_)
  · refine List.find?_eq_none.mpr (fun row member fits => ?_)
    obtain ⟨owner, kind, named⟩ := of_decide_eq_true fits
    exact ref_unseen enrolled inv.2 mine begun.unpublished ((mem_sessions s.db row).mp member) owner kind named
  · rintro s ⟨rfl, begun⟩
    exact register_new_records enrolled mine paired s begun

end

-- The request has returned its runtime row, which is committed with its task.
def SubagentRegistered (request : Request) (result : Except Failure Reply) (taskId : Nat) (db : Db) : Prop :=
  match request with
  | .registerSubagent user payload => ∃ id row missionId agentId, result = .ok (.created id) ∧ db.session id = some row ∧
      row.tenantId = user.tenantId ∧ row.kind = .subagent ∧ row.externalInstanceRef = some payload.externalInstanceRef ∧
      row.missionId = some missionId ∧ row.taskId = some taskId ∧ db.task taskId = some (createdTask missionId agentId payload)
  | _ => False

theorem subagent_registered_moves {before after : Db} (moved : PersonaMoves before after) {result : Except Failure Reply}
    {taskId : Nat} (registered : SubagentRegistered request result taskId before) : SubagentRegistered request result taskId after := by
  cases request with
  | registerSubagent user payload =>
      obtain ⟨id, row, missionId, agentId, returned, stored, owner, kind, named, mission, task, made⟩ := registered
      exact ⟨id, row, missionId, agentId, returned, kept_moves after moved ⟨.session id, row⟩ rfl stored, owner, kind, named, mission,
        task, kept_moves after moved ⟨.task taskId, createdTask missionId agentId payload⟩ rfl made⟩
  | _ => exact registered.elim

section
variable {start : Db} {tenantId : Nat} {codes : List String} {assigned : Nat → Option Request} {pid : Nat} {user : User}
  {payload : SubagentPayload}

theorem commit_registers {reply : Reply} :
    Boards start assigned pid user payload
      (fun s => ∃ missionId agentId created, reply = .created created.1 ∧ Recorded pid user payload missionId agentId created s) commit
      (fun _ s => ∃ taskId, SubagentRegistered (.registerSubagent user payload) (.ok reply) taskId s.db) (fun _ _ => False) := by
  rintro s ⟨missionId, agentId, created, rfl, time, parentId, aboard⟩
  refine sight_ask (.db .commit) (aboard_stable _) (fun s aboard _ => ⟨trivial, trivial, fun _ => aboard.settles⟩) (fun _ => trivial)
    (fun s choice answer t aboard _ _ _ _ executed => ⟨created.2, ?_⟩) s aboard
  have committed : t.db = s.server.view pid := by
    cases executed
    exact Server.commits_db pid s.server
  rw [committed]
  exact ⟨created.1, _, missionId, agentId, rfl, (aboard.kept _ List.mem_cons_self).2, rfl, rfl, rfl, rfl, rfl,
    (aboard.kept _ (List.mem_cons_of_mem _ List.mem_cons_self)).2⟩

theorem program_registers (enrolled : Enrolled start tenantId codes assigned) (paired : Paired start)
    (mine : assigned pid = some (.registerSubagent user payload)) (begun : Begun pid s) :
    Safe (sighting start assigned).toContract pid (.registerSubagent user payload)
      (fun result s => ∃ taskId, SubagentRegistered (.registerSubagent user payload) result taskId s.db)
      (program (.registerSubagent user payload)) s := by
  have walk : Boards start assigned pid user payload (Begun pid)
      (route (.registerSubagent user payload))
      (fun reply s => ∃ taskId, SubagentRegistered (.registerSubagent user payload) (.ok reply) taskId s.db) (fun _ _ => False) := by
    refine raises_catch (fun _ _ => False) (raises_bind _ (register_subagent_records enrolled mine paired) (fun reply => ?_))
      (fun _ _ never => never.elim)
    exact raises_bind _ (commit_registers) (fun _ => raises_pure _ (fun _ holds => holds))
  refine safe_weaken (fun result s ended => ?_) _ s (walk s begun)
  cases result with
  | ok reply => exact ended
  | error failure => exact ended.elim

end

def registersSubagent : Request → Bool
  | .registerSubagent _ _ => true
  | _ => false

-- Registrations of subagents only, none cut off, whose slot INSERTs meet no rival.
def Unrivalled : System → Action → Prop :=
  Pool.Meets (fun request => registersSubagent request = true) (fun pid _ stmt s => slotAccepted pid stmt s = true) noCrash

def assignedIn (system : System) (pid : Nat) : Option Request := system.procs[pid]?.map Prod.fst

theorem unrivalled_assigned (start : Db) {system : System} {pool : System} {actions : List Action}
    (run : Runs step Unrivalled pool actions system) :
    Runs step (Pool.Meets (fun request => registersSubagent request = true) (sighting start (assignedIn system)).guard
      (sighting start (assignedIn system)).mayCrash) pool actions system := by
  refine runs_weaken (fun s action met => ?_) (runs_known run)
  cases action with
  | arrive request => exact met.1
  | crash pid => exact met.1
  | step pid choice =>
      intro request stmt rest entry
      obtain ⟨further, present⟩ := met.2 pid request _ entry
      exact ⟨by simp [assignedIn, present], met.1 request stmt rest entry⟩

-- A request that nobody expects does not begin.
theorem unexpected_safe {start : Db} {assigned : Nat → Option Request} {pid : Nat} {user : User}
    {post : Except Failure Reply → Sys → Prop} (other : assigned pid ≠ some (.registerSubagent user payload)) :
    Safe (sighting start assigned).toContract pid (.registerSubagent user payload) post (program (.registerSubagent user payload)) s :=
  fun _ _ _ met => absurd met.1 other

theorem first_sights_sound (start : Db) (nextId : Nat) (tenantId : Nat) (codes : List String) (system : System) (actions : List Action)
    (distinct : Distinct schema start) (below : Below start nextId)
    (fits : ∀ id row, start.lookup (.personaSlot id) = some row → row.slot < personaSlotCap) (paired : Paired start)
    (versions : ∀ id row, start.agentVersion id = some row → (start.agent row.agentId).isSome = true)
    (enrolled : Enrolled start tenantId codes (assignedIn system)) (run : Runs step Unrivalled (boot start nextId []) actions system) :
    Sound (sighting start (assignedIn system)) (fun _ request result s => ∃ taskId, SubagentRegistered request result taskId s.db) system := by
  refine runs_sound (D := sighting start (assignedIn system)) (fun pid request result s t holds moved _ => ?_)
    (fun pid request s arrives inv idle => ?_) (fun _ _ _ _ never => never.elim) (unrivalled_assigned start run) ?_
  · obtain ⟨taskId, registered⟩ := holds
    exact ⟨taskId, subagent_registered_moves moved.1.committed registered⟩
  · cases request with
    | registerSubagent user payload =>
        by_cases mine : assignedIn system pid = some (.registerSubagent user payload)
        · exact program_registers enrolled paired mine ⟨idle.1, idle.2⟩
        · exact unexpected_safe mine
    | _ => cases arrives
  · refine sound_start _ ⟨kept_boot _ start nextId [], {
      slots := ⟨unique_start distinct, boot_minted [] below, fits, paired⟩
      since := fun key => persona_cell_refl key _
      authored := fun key row id named stored => .inl (Option.isSome_of_eq_some stored)
      staged := fun pid key row stored => .inl (Option.isSome_of_eq_some stored)
      versions := versions
      versioned := fun pid id row stored => versions id row stored }⟩ (fun pid => ⟨rfl, fun key id named held => by cases held⟩)

-- Whatever the interleaving of first sights under live sessions of one tenant, of
-- personas that are not suspended and have room in the slots: as long as no slot INSERT
-- meets a rival, a request waits for nothing but another transaction's lock, and one
-- that is over has returned its runtime row, committed with a task of its own.
theorem first_sights_succeed (start : Db) (nextId tenantId : Nat) (codes : List String) (distinct : Distinct schema start)
    (below : Below start nextId) (fits : ∀ id row, start.lookup (.personaSlot id) = some row → row.slot < personaSlotCap)
    (paired : Paired start) (versions : ∀ id row, start.agentVersion id = some row → (start.agent row.agentId).isSome = true)
    (actions : List Action) (system : System) (enrolled : Enrolled start tenantId codes (assignedIn system))
    (run : Runs step Unrivalled (boot start nextId []) actions system) :
    (∀ (pid : Nat) request stmt next choice, system.procs[pid]? = some (request, .act stmt next) →
      (step system (.step pid choice)).isSome = true ∨ ∃ other, other ≠ pid ∧ system.shared.server.Holds other) ∧
    (∀ (pid : Nat) request result, system.procs[pid]? = some (request, .ret result) → ∃ taskId, SubagentRegistered request result taskId system.db) ∧
    ∀ (pid other : Nat) request rival result outcome taskId, system.procs[pid]? = some (request, .ret result) →
      system.procs[other]? = some (rival, .ret outcome) → SubagentRegistered request result taskId system.db →
      SubagentRegistered rival outcome taskId system.db → pid = other := by
  have sound := first_sights_sound start nextId tenantId codes system actions distinct below fits paired versions enrolled run
  refine ⟨fun pid request stmt next choice entry => ?_, fun pid request result ended => ?_, ?_⟩
  · have enabled : (step system (.step pid choice)).isSome = true ∨ exec pid stmt choice system.shared = none :=
      system.step_enabled pid choice _ stmt next entry
    exact enabled.imp_right (exec_waits pid stmt choice system.shared)
  · exact sound.safe pid request (.ret result) ended
  · intro pid other request rival result outcome taskId ended endedToo mine theirs
    cases request with
    | registerSubagent user payload =>
        cases rival with
        | registerSubagent member sibling =>
            obtain ⟨-, -, missionId, agentId, -, -, -, -, -, -, -, task⟩ := mine
            obtain ⟨-, -, otherMission, otherAgent, -, -, -, -, -, -, -, same⟩ := theirs
            have keys : subagentIdempotencyKey missionId payload.externalInstanceRef =
                subagentIdempotencyKey otherMission sibling.externalInstanceRef :=
              congrArg Task.idempotencyKey (Option.some.inj (task.symm.trans same))
            exact enrolled.refs pid other user member payload sibling (by simp [assignedIn, ended]) (by simp [assignedIn, endedToo])
              (subagent_key_ref _ _ _ _ keys)
        | _ => exact theirs.elim
    | _ => exact mine.elim

namespace Sample

-- A live session, and two first sights under it.
def nursery : Db :=
  (((((∅ : Db).insert (.modelPolicy 0) ⟨1, "claude-code-external"⟩).insert
    (.agent 1) ⟨1, "AGT-CLAUDE-CODE", "Claude Code", .active, none⟩).insert (.mission 3) ⟨1, "s", some 1, .running⟩).insert
    (.task 4) ⟨3, 1, .running, 0, "3:task:1", none⟩).insert
    (.session 5) ⟨1, .session, some 1, some 3, some 4, "s", none, none, 20, none, none, none⟩

def planner : SubagentPayload := ⟨some "planner", "a", "s"⟩

def generalist : SubagentPayload := ⟨none, "b", "s"⟩

def codes : List String := ["AGT-CC-PLANNER", "AGT-CC-GENERAL"]

def twins (pid : Nat) : Option Request :=
  if pid = 0 then some (.registerSubagent member planner) else if pid = 1 then some (.registerSubagent member generalist) else none

def inTurn : List Action :=
  .arrive (.registerSubagent member planner) :: .arrive (.registerSubagent member generalist) ::
    turns 0 3 ++ turns 1 3 ++ turns 0 19 ++ turns 1 19

-- Both have read that slot 0 is free.
def atOnce : List Action :=
  .arrive (.registerSubagent member planner) :: .arrive (.registerSubagent member generalist) ::
    turns 0 5 ++ turns 1 5 ++ turns 0 17 ++ turns 1 10

def answers (system : System) : List (Request × Option (Except Failure Reply)) :=
  system.procs.map (fun entry => (entry.1, entry.2.done))

theorem ended_of_answers (system : System) (pid : Nat) (request : Request) (result : Except Failure Reply)
    (listed : (answers system)[pid]? = some (request, some result)) : system.procs[pid]? = some (request, .ret result) :=
  Pool.ended_of_answer (by rw [Pool.answer, ← List.getElem?_map]; exact listed)

theorem nursery_sessions {id : Nat} {row : AgentRuntimeSession} (stored : nursery.session id = some row) : row.kind = .session := by
  have checked : nursery.sessions.all (fun session => decide (session.2.kind = .session)) = true := by decide +kernel
  exact of_decide_eq_true (List.all_eq_true.mp checked (id, row) ((mem_sessions _ (id, row)).mpr stored))

theorem nursery_admits (parent : payload.parentExternalSessionRef = "s") (code : personaCode payload ∈ codes)
    (untold : nursery.tasks.all (fun task => task.2.idempotencyKey ≠ subagentIdempotencyKey 3 payload.externalInstanceRef) = true)
    (unmanned : nursery.agents.all (fun agent => agent.2.lifecycleState ≠ .suspended) = true) :
    Admissible nursery 1 codes member payload where
  tenant := rfl
  code := code
  parent := ⟨5, 3, ⟨_, rfl, rfl, rfl, parent.symm, rfl, rfl⟩, rfl, fun id row stored =>
    of_decide_eq_true (List.all_eq_true.mp untold (id, row) ((mem_tasks nursery (id, row)).mpr stored))⟩
  unseen := fun id row stored _ kind => by cases kind.symm.trans (nursery_sessions stored)
  persona := fun id agent stored _ _ =>
    of_decide_eq_true (List.all_eq_true.mp unmanned (id, agent) ((mem_agents nursery (id, agent)).mpr stored))

theorem twins_cases {pid : Nat} (known : twins pid = some request) :
    (pid = 0 ∧ request = .registerSubagent member planner) ∨ pid = 1 ∧ request = .registerSubagent member generalist := by
  unfold twins at known
  split at known
  next first =>
    cases known
    exact .inl ⟨first, rfl⟩
  next =>
    split at known
    next second =>
      cases known
      exact .inr ⟨second, rfl⟩
    next => cases known

theorem twins_enrolled : Enrolled nursery 1 codes twins where
  admitted := fun pid request known => by
    rcases twins_cases known with ⟨-, rfl⟩ | ⟨-, rfl⟩
    · exact ⟨_, _, rfl, nursery_admits rfl (by decide +kernel) (by decide +kernel) (by decide +kernel)⟩
    · exact ⟨_, _, rfl, nursery_admits rfl (by decide +kernel) (by decide +kernel) (by decide +kernel)⟩
  refs := fun pid other user rival payload sibling known also same => by
    rcases twins_cases known with ⟨rfl, mine⟩ | ⟨rfl, mine⟩ <;>
      rcases twins_cases also with ⟨rfl, theirs⟩ | ⟨rfl, theirs⟩ <;> cases mine <;> cases theirs
    · rfl
    · exact absurd same (by decide)
    · exact absurd same (by decide)
    · rfl
  listed := fun id row stored _ => by
    have none : nursery.personaSlots = [] := rfl
    have member := (mem_persona_slots nursery (id, row)).mpr stored
    rw [none] at member
    cases member
  policy := ⟨0, _, rfl, rfl, rfl⟩
  fit := by decide
  spare := .inl (by decide)

theorem assigned_twins (system : System) (first second : Option (Except Failure Reply))
    (shown : answers system = [(.registerSubagent member planner, first), (.registerSubagent member generalist, second)]) :
    assignedIn system = twins := by
  have requests : system.procs.map Prod.fst = [.registerSubagent member planner, .registerSubagent member generalist] := by
    simpa [answers, Function.comp_def] using congrArg (List.map Prod.fst) shown
  funext pid
  rw [assignedIn, ← List.getElem?_map, requests]
  match pid with
  | 0 => rfl
  | 1 => rfl
  | pid + 2 => rfl

end Sample

theorem first_sights_succeed_in_turn :
    ∃ system, Runs step Unrivalled (boot Sample.nursery 10 []) Sample.inTurn system ∧
      ∃ taskId, SubagentRegistered (.registerSubagent member Sample.generalist) (.ok (.created 21)) taskId system.db := by
  obtain ⟨system, run, shown⟩ := checked_exhibit step
    (Pool.checks registersSubagent (fun pid _ stmt s => slotAccepted pid stmt s) (fun _ _ => false))
    (fun system action checked => Pool.meets_weaken (fun _ arrives => arrives) (fun _ _ never => Bool.false_ne_true never)
      (by simpa using Pool.meets_of_checks _ _ _ system action checked))
    (fun system => Sample.answers system = [(.registerSubagent member Sample.planner, some (.ok (.created 14))),
      (.registerSubagent member Sample.generalist, some (.ok (.created 21)))]) (boot Sample.nursery 10 []) Sample.inTurn (by decide +kernel)
  have answered := of_decide_eq_true shown
  have ended : system.procs[1]? = some (.registerSubagent member Sample.generalist, .ret (.ok (.created 21))) :=
    Sample.ended_of_answers system 1 _ _ (by rw [answered]; rfl)
  refine ⟨system, run, (first_sights_succeed Sample.nursery 10 1 Sample.codes
    (distinct_of_rows schema Sample.nursery (by decide +kernel)) (below_of_rows Sample.nursery 10 (by decide +kernel))
    (fun id row stored => ?_) (fun id row stored => ?_) (fun id row stored => ?_) Sample.inTurn system
    (Sample.assigned_twins system _ _ answered ▸ Sample.twins_enrolled) run).2.1 1 _ _ ended⟩
  · exact absurd ((mem_persona_slots Sample.nursery (id, row)).mpr stored) List.not_mem_nil
  · exact absurd ((mem_persona_slots Sample.nursery (id, row)).mpr stored) List.not_mem_nil
  · have absent : Sample.nursery.lookup (.agentVersion id) = none := by
      simp only [Sample.nursery, ne_eq, reduceCtorEq, not_false_eq_true, AList.lookup_insert_ne]
      rfl
    cases absent.symm.trans stored

-- The loser of a slot has its transaction rolled back, and then reads an instance that
-- the rollback has expired.
theorem first_sight_fails_at_once :
    ∃ system, Runs step Anything (boot Sample.nursery 10 []) Sample.atOnce system ∧
      Enrolled Sample.nursery 1 Sample.codes (assignedIn system) ∧
      system.procs[1]? = some (.registerSubagent member Sample.generalist, .ret (.error (.unexpected "MissingGreenlet"))) := by
  obtain ⟨system, run, shown⟩ := runs_exhibit step
    (fun system => Sample.answers system = [(.registerSubagent member Sample.planner, some (.ok (.created 14))),
      (.registerSubagent member Sample.generalist, some (.error (.unexpected "MissingGreenlet")))]) (boot Sample.nursery 10 [])
    Sample.atOnce (by decide +kernel)
  have answered := of_decide_eq_true shown
  exact ⟨system, run, Sample.assigned_twins system _ _ answered ▸ Sample.twins_enrolled,
    Sample.ended_of_answers system 1 _ _ (by rw [answered]; rfl)⟩

end AiWorld.Api
