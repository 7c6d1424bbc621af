import AiWorld.Api.RuntimeRoutes

set_option autoImplicit false

namespace AiWorld.Api

open AiWorld.Concurrency AiWorld.Database

variable {agentId missionId other tenantId : Nat} {payload : SubagentPayload} {persona : PersonaDefinition} {expired : Bool}

-- A registration has written no session yet, and knows its parent.
structure Registering (pid parentId : Nat) (parent : AgentRuntimeSession) (s : Sys) : Prop where
  unwritten : ∀ id, Key.session id ∉ stagedKeys pid s
  known : Known pid parentId parent s

theorem registering_carried (pid parentId : Nat) (parent : AgentRuntimeSession) : Carried (Passes pid) (Registering pid parentId parent) := by
  intro s t registering passes
  refine ⟨fun id member => ?_, known_carried s t registering.known passes.lasts⟩
  obtain ⟨news, grown, outside⟩ := passes.keys
  rw [grown] at member
  rcases List.mem_append.mp member with old | new
  · exact registering.unwritten id old
  · cases outside _ new

variable {pid : Nat}

theorem unwritten_sessions {s : Sys} (unwritten : ∀ id, Key.session id ∉ stagedKeys pid s) (id : Nat) :
    (s.sees pid).session id = s.db.session id :=
  lookup_replay_untouched _ (fun write member same => unwritten id (List.mem_map.mpr ⟨write, member, same⟩))

-- The new task is the transaction's own.
structure OwnTask (pid taskId : Nat) (s : Sys) : Prop where
  held : s.server.rowLock (.task taskId) = some pid
  uncommitted : s.db.task taskId = none
  seen : ((s.sees pid).task taskId).isSome = true

theorem own_task_carried {terms : Terms} {taskId : Nat} : Carried (Stays terms pid) (OwnTask pid taskId) := by
  intro s t minted stays
  obtain ⟨held, committed, seen⟩ := stays.rows (.task taskId) minted.held
  exact ⟨held, committed.trans minted.uncommitted, by
    rw [show (t.sees pid).task taskId = (s.sees pid).task taskId from seen]
    exact minted.seen⟩

section
variable {start : Db} {terms : Terms} {pid : Nat} {request : Request}

theorem rollback_walks {pre : Sys → Prop} {after : Sys → Prop} (stable : Stable (running start terms).toContract pid pre)
    (keeps : ∀ s t, pre s → t.server = s.server.rollsBack pid → after t) :
    Walks start terms pid request pre rollback (fun _ => InOrder terms pid after) := by
  refine running_ask stable (fun s query _ _ same => ?_) (fun query write same sets => ?_) (fun same => by cases same)
    (fun s choice answer t holds kept inv _ executed => ?_)
  · cases same
    exact respects_reading rfl
  · cases same
    cases sets
  · obtain ⟨runtime, -⟩ := within_sustains kept inv (fun query write same sets => by
      cases same
      cases sets) (fun same => by cases same) executed
    have rolled : t.server = s.server.rollsBack pid := by
      cases executed
      rfl
    have staged : t.server.staged pid = [] := by simp [rolled, Server.rollsBack]
    have pending : t.server.pending pid = [] := by simp [rolled, Server.rollsBack]
    exact ⟨composed_begin runtime staged pending, keeps s t holds rolled⟩

theorem registering_rolled {s t : Sys} {parentId : Nat} {parent : AgentRuntimeSession} (registering : Registering pid parentId parent s)
    (rolled : t.server = s.server.rollsBack pid) : Registering pid parentId parent t := by
  have staged : t.server.staged pid = [] := by simp [rolled, Server.rollsBack]
  have db : t.db = s.db := by rw [Sys.db, rolled]; rfl
  obtain ⟨row, stored, pinned⟩ := registering.known
  refine ⟨fun id member => by simp [stagedKeys, staged] at member, row, ?_, pinned⟩
  rw [Sys.sees, clean_view staged, db, ← unwritten_sessions registering.unwritten]
  exact stored

section
variable {parentId : Nat} {parent : AgentRuntimeSession} {taskId : Nat}

theorem task_minted {s t : Sys} (composed : Composed terms [] none pid s) (related : Related (runtimeRule terms) s.server) {row : Task}
    (absent : (s.sees pid).task taskId = none) (appends : Appends pid [.put (.task taskId) row] s.server t.server) :
    Composed terms [] none pid t ∧ OwnTask pid taskId t := by
  have uncommitted : s.db.task taskId = none := by
    cases stored : s.db.task taskId with
    | none => rfl
    | some old =>
        obtain ⟨found, present, -⟩ := task_lasts (related pid) stored
        cases absent.symm.trans present
  have stored : (t.sees pid).task taskId = some row := appends_here appends
  have db : t.db = s.db := appends.db
  refine ⟨composed_task composed rfl appends (fun _ => ⟨.inl uncommitted, by rw [stored]; rfl, fun task known => ?_⟩),
    appends.held _ (List.mem_singleton.mpr rfl), by rw [db]; exact uncommitted, Option.isSome_of_eq_some stored⟩
  cases absent.symm.trans known

theorem insert_task_walks {row : Task} :
    Walks start terms pid request (InOrder terms pid (Registering pid parentId parent))
      (insert (.task taskId) row)
      (fun _ => InOrder terms pid (fun s => Registering pid parentId parent s ∧ OwnTask pid taskId s)) := by
  have passes := registering_carried pid parentId parent
  refine raises_bind (fun (inserted : Bool) s => inserted = true → Composed terms [] none pid s ∧ (Registering pid parentId parent s ∧ OwnTask pid taskId s))
    (running_ask (framed_stable (stays_of_passes passes)) ?_ ?_
      (fun same => by cases same) ?_) (fun inserted => ?_)
  · intro s query kept _ same
    cases same
    refine respects_own (runtime_rule_trans terms) kept.2 (fun write sets accepted => ?_)
    cases sets
    have absent : (s.sees pid).task taskId = none := accepts_absent accepted
    change Persists (TaskMoves terms) ((s.sees pid).task taskId) (some row)
    rw [absent]
    trivial
  · intro query write same sets
    cases same
    cases sets
    trivial
  · rintro s choice inserted t ⟨composed, registering⟩ kept inv - executed rfl
    rcases exec_inserts executed with ⟨refused, -⟩ | ⟨-, accepted, appends⟩
    · cases refused
    obtain ⟨after, minted⟩ := task_minted composed kept.2 (accepts_absent accepted) appends
    exact ⟨after, passes s t registering (outside_passes appends (by simp [Write.key, Key.outside])), minted⟩
  · cases inserted with
    | true => exact raises_pure _ (fun _ holds => holds rfl)
    | false => exact walks_throw

-- A new row of a subagent under its parent.
structure Child (parentId taskId : Nat) (parent row : AgentRuntimeSession) : Prop where
  kind : row.kind = .subagent
  unended : row.endedAt = none
  under : row.parentSessionId = some parentId
  tenant : row.tenantId = parent.tenantId
  task : row.taskId = some taskId

structure Adds (pid id : Nat) (row : AgentRuntimeSession) (s t : Sys) : Prop where
  appends : Appends pid [.put (.session id) row] s.server t.server
  absent : (s.sees pid).session id = none

variable {id : Nat} {row : AgentRuntimeSession} {s t : Sys}

theorem adds_here (adds : Adds pid id row s t) : (t.sees pid).session id = some row := appends_here adds.appends

theorem adds_elsewhere (adds : Adds pid id row s t) (different : other ≠ id) :
    (t.sees pid).session other = (s.sees pid).session other :=
  appends_elsewhere adds.appends (by simpa [Write.key] using fun same => different same.symm)

theorem adds_keeps (adds : Adds pid id row s t) {old : AgentRuntimeSession} (stored : (s.sees pid).session other = some old) :
    (t.sees pid).session other = some old := by
  by_cases same : other = id
  · rw [same, adds.absent] at stored
    cases stored
  · rw [adds_elsewhere adds same]
    exact stored

theorem adds_cases (adds : Adds pid id row s t) {found : AgentRuntimeSession} (stored : (t.sees pid).session other = some found) :
    (other = id ∧ found = row) ∨ (s.sees pid).session other = some found := by
  by_cases same : other = id
  · subst same
    exact .inl ⟨rfl, Option.some.inj (stored.symm.trans (adds_here adds))⟩
  · exact .inr ((adds_elsewhere adds same).symm.trans stored)

theorem adds_apart (adds : Adds pid id row s t) : (t.sees pid).closure = (s.sees pid).closure ∧ (t.sees pid).task = (s.sees pid).task :=
  ⟨outside_closures adds.appends (by simp [Write.key]), outside_tasks adds.appends (by simp [Write.key])⟩

theorem adds_kin (adds : Adds pid id row s t) (child : Child parentId taskId parent row) (known : Known pid parentId parent s)
    (kin : Kin (s.sees pid)) : Kin (t.sees pid) := by
  intro other found otherParent stored named
  rcases adds_cases adds stored with ⟨rfl, rfl⟩ | before
  · obtain ⟨old, there, pinned⟩ := known
    obtain rfl : parentId = otherParent := Option.some.inj (child.under.symm.trans named)
    refine ⟨child.kind, old, adds_keeps adds there, ?_⟩
    rw [pinned, child.tenant]
  · obtain ⟨kind, old, there, tenant⟩ := kin other found otherParent before named
    exact ⟨kind, old, adds_keeps adds there, tenant⟩

theorem adds_owned (adds : Adds pid id row s t) (owned : OfSubagents (s.sees pid)) : OfSubagents (t.sees pid) := by
  intro closureId closure stored
  rw [(adds_apart adds).1] at stored
  obtain ⟨session, there, kind⟩ := owned closureId closure stored
  exact ⟨session, adds_keeps adds there, kind⟩

theorem adds_paired (adds : Adds pid id row s t) (child : Child parentId taskId parent row) (owned : OfSubagents (s.sees pid))
    (paired : EndedIffClosed other (s.sees pid)) : EndedIffClosed other (t.sees pid) := by
  intro found stored kind
  rw [Closed, (adds_apart adds).1]
  rcases adds_cases adds stored with ⟨rfl, rfl⟩ | before
  · refine ⟨fun closed => ?_, fun ended => absurd child.unended ended⟩
    obtain ⟨closureId, closure, present, whose⟩ := closed
    obtain ⟨session, there, -⟩ := owned closureId closure present
    rw [whose, adds.absent] at there
    cases there
  · exact paired found before kind

-- The parent was open when the row was inserted.
theorem adds_sheltered (adds : Adds pid id row s t) (child : Child parentId taskId parent row)
    (opened : ∀ found, (s.sees pid).session parentId = some found → found.endedAt = none) (sheltered : Sheltered (s.sees pid)) :
    Sheltered (t.sees pid) := by
  intro other found inner innerRow stored kind ended storedInner named
  have before : (s.sees pid).session other = some found := by
    rcases adds_cases adds stored with ⟨-, rfl⟩ | before
    · cases child.kind.symm.trans kind
    · exact before
  rcases adds_cases adds storedInner with ⟨rfl, rfl⟩ | beforeInner
  · obtain rfl : parentId = other := Option.some.inj (child.under.symm.trans named)
    exact absurd (opened found before) ended
  · exact sheltered other found inner innerRow before kind ended beforeInner named

theorem adds_hold (adds : Adds pid id row s t) (child : Child parentId taskId parent row) (minted : OwnTask pid taskId s)
    (unwritten : ∀ id, Key.session id ∉ stagedKeys pid s) (committed : Tasks s.db) (hold : TaskHold pid s) : TaskHold pid t := by
  -- No other session names the task, which is not committed.
  have alone : ∀ other rival, (s.sees pid).session other = some rival → rival.taskId ≠ some taskId := by
    intro other rival stored named
    rw [unwritten_sessions unwritten] at stored
    have held := committed.held other rival taskId stored named
    rw [minted.uncommitted] at held
    cases held
  have db : t.db = s.db := adds.appends.db
  have tasks := (adds_apart adds).2
  refine ⟨⟨?_, ?_, ?_⟩, owns_appended hold adds.appends (by simp [Write.key]), ?_⟩
  · intro first firstRow second secondRow named stored storedToo one two
    rcases adds_cases adds stored with ⟨rfl, rfl⟩ | before
    · rcases adds_cases adds storedToo with ⟨rfl, -⟩ | beforeToo
      · rfl
      · rw [← child.task.symm.trans one] at two
        exact absurd two (alone second secondRow beforeToo)
    · rcases adds_cases adds storedToo with ⟨rfl, rfl⟩ | beforeToo
      · rw [← child.task.symm.trans two] at one
        exact absurd one (alone first firstRow before)
      · exact hold.apart first firstRow second secondRow named before beforeToo one two
  · intro other found named stored whose
    rw [tasks]
    rcases adds_cases adds stored with ⟨rfl, rfl⟩ | before
    · rw [← Option.some.inj (child.task.symm.trans whose)]
      exact minted.seen
    · exact hold.held other found named before whose
  · intro other found named task stored kind ended whose present
    rw [tasks] at present
    rcases adds_cases adds stored with ⟨rfl, rfl⟩ | before
    · exact absurd child.unended ended
    · exact hold.done other found named task before kind ended whose present
  · intro other found stored absent
    rcases adds_cases adds stored with ⟨rfl, rfl⟩ | before
    · exact ⟨taskId, child.task, adds.appends.rowLock _ minted.held, by rw [db]; exact minted.uncommitted⟩
    · exact fresh_appended hold adds.appends before absent

theorem composed_child (adds : Adds pid id row s t) (child : Child parentId taskId parent row) (composed : Composed terms [] none pid s)
    (registering : Registering pid parentId parent s) (minted : OwnTask pid taskId s) (inv : Runtime start terms s)
    (opened : terms.parentsOpen → ∀ found, (s.sees pid).session parentId = some found → found.endedAt = none) :
    Composed terms [] none pid t :=
  composed_appended composed adds.appends (adds_kin adds child registering.known composed.kin) (adds_owned adds composed.owned)
    (fun other free => adds_paired adds child composed.owned (composed.paired other free))
    (fun other free => accounted_closures (adds_apart adds).1 (composed.accounted other free))
    (fun asked => adds_sheltered adds child (opened asked) (composed.sheltered asked))
    (fun asked => adds_hold adds child minted registering.unwritten (inv.tasks asked) (composed.tasks asked))

theorem insert_child_walks (child : Child parentId taskId parent row) :
    Walks start terms pid request
      (InOrder terms pid (fun s => Registering pid parentId parent s ∧ OwnTask pid taskId s)) (insert (.session id) row)
      (fun _ => Unframed terms pid) := by
  have stays : Carried (Stays terms pid) (fun s => Registering pid parentId parent s ∧ OwnTask pid taskId s) :=
    carried_and (stays_of_passes (registering_carried pid parentId parent)) (own_task_carried)
  refine raises_bind (fun (inserted : Bool) s => inserted = true → Composed terms [] none pid s ∧ True)
    (running_ask (framed_stable stays) ?_ ?_ (fun same => by cases same) ?_) (fun inserted => ?_)
  · intro s query kept _ same
    cases same
    refine respects_insert (fun accepted => ?_)
    have absent : (s.sees pid).session id = none := accepts_absent accepted
    have uncommitted : s.db.session id = none := by
      cases stored : s.db.session id with
      | none => rfl
      | some old =>
          obtain ⟨found, present, -⟩ := session_lasts (kept.2 pid) stored
          cases absent.symm.trans present
    change SessionCell terms _ id (s.db.session id) (some row)
    rw [uncommitted]
    refine ⟨.inl child.unended, fun named same => .inl ?_⟩
    simp [schema, references, same]
  · intro query write same sets
    cases same
    cases sets
    trivial
  · rintro s choice inserted t ⟨composed, registering, minted⟩ kept inv met executed rfl
    rcases exec_inserts executed with ⟨refused, -⟩ | ⟨-, accepted, appends⟩
    · cases refused
    refine ⟨composed_child ⟨appends, accepts_absent accepted⟩ child composed registering minted inv
      (fun asked found stored => ?_), trivial⟩
    have opened : parentOpen (.db (.insert (.session id) row)) s = true := met.2 asked
    rw [unwritten_sessions registering.unwritten] at stored
    simpa [parentOpen, child.under, stored] using opened
  · cases inserted with
    | true => exact raises_pure _ (fun _ holds => holds rfl)
    | false => exact walks_throw

end

section
variable {parentId : Nat} {parent : AgentRuntimeSession}

theorem create_subagent_walks {tenantId : Nat} (tenant : parent.tenantId = tenantId) :
    Walks start terms pid request (InOrder terms pid (Registering pid parentId parent))
      (createSubagent tenantId agentId missionId parentId payload) (fun _ => Unframed terms pid) := by
  have registering : Carried (Stays terms pid) (Registering pid parentId parent) :=
    stays_of_passes (registering_carried pid parentId parent)
  refine raises_bind _ (framed_new_id registering) (fun taskId => ?_)
  refine raises_bind _ (insert_task_walks) (fun _ => ?_)
  refine raises_bind _ (framed_new_id (carried_and registering (own_task_carried))) (fun id => ?_)
  refine raises_bind _ (framed_now (carried_and registering (own_task_carried))) (fun time => ?_)
  refine raises_bind _ (insert_child_walks ⟨rfl, rfl, rfl, tenant.symm, rfl⟩) (fun _ => ?_)
  exact raises_done

theorem reread_session_walks {query : Db → Option (Loaded AgentRuntimeSession)} {failure : Failure} :
    Walks start terms pid request (fun _ => True) (rereadSession query failure)
      (fun _ => Unframed terms pid) := by
  cases failure with
  | integrity =>
      refine raises_bind (fun _ => Unframed terms pid) (rollback_walks (fun _ _ _ _ _ => trivial) (fun _ _ _ _ => trivial)) (fun _ => ?_)
      refine raises_bind _ (framed_reads (fun _ _ _ _ => trivial)) (fun found => ?_)
      cases found with
      | none => exact walks_throw
      | some session => exact raises_done
  | _ => exact walks_throw

variable {user : User}

theorem read_loaded_walks {pre : Sys → Prop} : Walks start terms pid request pre (readLoaded expired) (fun _ => pre) := by
  cases expired with
  | true => exact walks_throw
  | false => exact raises_done

theorem publish_subagent_walks {created : Nat × Nat} :
    Walks start terms pid request (Unframed terms pid)
      (publishSubagent user missionId agentId expired created) (fun _ => Unframed terms pid) := by
  refine raises_bind _ read_loaded_walks (fun _ => ?_)
  refine raises_bind _ (framed_publish (fun _ _ _ _ => trivial) (fun _ _ => trivial)) (fun _ => ?_)
  refine raises_bind _ (framed_publish (fun _ _ _ _ => trivial) (fun _ _ => trivial)) (fun _ => ?_)
  exact raises_done

theorem register_as_walks {persona : Loaded Agent} (tenant : parent.tenantId = user.tenantId) :
    Walks start terms pid request (InOrder terms pid (Registering pid parentId parent))
      (registerAs user payload parentId missionId persona expired) (fun _ => Unframed terms pid) := by
  have guards : Walks start terms pid request (InOrder terms pid (Registering pid parentId parent))
      (guarded (createSubagent user.tenantId persona.1 missionId parentId payload)
        (rereadSession (getSubagent user.tenantId payload.externalInstanceRef)) (publishSubagent user missionId persona.1 expired))
      (fun _ => Unframed terms pid) := by
    refine raises_bind (fun _ => Unframed terms pid) (raises_catch (fun _ _ => True)
      (raises_map _ (create_subagent_walks tenant))
      (fun failure => raises_map _ (reread_session_walks))) (fun result => ?_)
    cases result with
    | inl created => exact publish_subagent_walks
    | inr reply => exact raises_done
  unfold registerAs
  split
  · exact walks_throw
  · exact guards

theorem claim_slot_walks {agentCode : String} (attempts : Nat) (occupied : List Nat) (expired : Bool) :
    Walks start terms pid request (InOrder terms pid (Registering pid parentId parent))
      (claimSlot tenantId agentCode attempts occupied expired)
      (fun _ => InOrder terms pid (Registering pid parentId parent)) := by
  have passes := registering_carried pid parentId parent
  have stays : Carried (Stays terms pid) (Registering pid parentId parent) := stays_of_passes passes
  induction attempts generalizing occupied expired with
  | zero => exact walks_throw
  | succ attempts ih =>
      unfold claimSlot
      split
      · exact walks_throw
      · refine raises_bind _ (framed_new_id stays) (fun id => ?_)
        refine raises_bind _ (framed_try_insert (sides_of_passes passes) rfl)
          (fun (inserted : Bool) => ?_)
        cases inserted with
        | true => exact raises_done
        | false =>
            refine raises_bind _ (rollback_walks (framed_stable stays) (fun s t holds rolled => registering_rolled holds.2 rolled)) (fun _ => ?_)
            refine raises_bind _ (framed_reads stays) (fun existing => ?_)
            cases existing with
            | some agent => exact raises_done
            | none => exact raises_bind _ (framed_reads stays) (fun again => ih again true)

theorem create_persona_walks {policyId : Nat} :
    Walks start terms pid request (InOrder terms pid (Registering pid parentId parent))
      (createPersona tenantId persona policyId expired)
      (fun _ => InOrder terms pid (Registering pid parentId parent)) := by
  have passes := registering_carried pid parentId parent
  have stays : Carried (Stays terms pid) (Registering pid parentId parent) := stays_of_passes passes
  have sides : Carried (Sides terms pid) (Registering pid parentId parent) := sides_of_passes passes
  refine raises_bind _ (framed_new_id stays) (fun id => ?_)
  refine raises_bind _ (framed_insert sides rfl (fun _ _ => trivial)) (fun _ => ?_)
  refine raises_bind _ read_loaded_walks (fun _ => ?_)
  refine raises_bind _ (framed_new_id stays) (fun versionId => ?_)
  refine raises_bind _ (framed_insert sides rfl (fun _ _ => trivial)) (fun _ => ?_)
  refine raises_bind _ (framed_update sides rfl) (fun _ => ?_)
  exact raises_done

theorem ensure_persona_walks :
    Walks start terms pid request (InOrder terms pid (Registering pid parentId parent))
      (ensurePersona tenantId persona) (fun _ => InOrder terms pid (Registering pid parentId parent)) := by
  have stays : Carried (Stays terms pid) (Registering pid parentId parent) :=
    stays_of_passes (registering_carried pid parentId parent)
  refine raises_bind _ (framed_reads stays) (fun existing => ?_)
  cases existing with
  | some agent => exact raises_done
  | none =>
      refine raises_bind (fun _ => InOrder terms pid (Registering pid parentId parent))
        (raises_bind _ (framed_reads stays) (fun (policy : Option (Loaded ModelPolicy)) => ?_)) (fun policyId => ?_)
      · cases policy with
        | none => exact walks_throw
        | some policy => exact raises_done
      refine raises_bind _ (framed_reads stays) (fun occupied => ?_)
      refine raises_bind _ (claim_slot_walks maxClaimAttempts occupied false) (fun winner => ?_)
      obtain ⟨claimed, expired⟩ := winner
      cases claimed with
      | some agent => exact raises_done
      | none =>
          exact raises_bind _ (create_persona_walks) (fun agent => raises_done)

end

theorem register_subagent_walks {user : User} (payload : SubagentPayload) :
    Walks start terms pid request
      (InOrder terms pid (fun s => ∀ id, Key.session id ∉ stagedKeys pid s)) (registerSubagent user payload)
      (fun _ => Unframed terms pid) := by
  have unwritten : Carried (Stays terms pid) (fun s => ∀ id, Key.session id ∉ stagedKeys pid s) := by
    intro s t holds stays id
    rw [stagedKeys, stays.staged]
    exact holds id
  refine raises_bind _ (framed_reads unwritten) (fun existing => ?_)
  cases existing with
  | some session => exact raises_pure _ (fun s holds => ⟨holds.1, trivial⟩)
  | none =>
      refine raises_bind (fun (found : Option (Loaded AgentRuntimeSession)) s => ∀ parent, found = some parent →
          parent.2.tenantId = user.tenantId ∧ Composed terms [] none pid s ∧ Registering pid parent.1 parent.2 s)
        (framed_select _ unwritten (fun s composed framed _ _ parent found => ?_)) (fun found => ?_)
      · have fits := List.find?_some found
        simp only [decide_eq_true_eq] at fits
        exact ⟨fits.1, composed, framed, parent.2, (mem_sessions _ _).mp (List.mem_of_find?_eq_some found), pinned_refl (.session parent.1) parent.2⟩
      cases found with
      | none => exact walks_throw
      | some parent =>
          refine raises_before (raises_fact (fun (tenant : parent.2.tenantId = user.tenantId) => ?_)) (fun s holds => holds parent rfl)
          dsimp only
          split
          · exact walks_throw
          · exact walks_throw
          next missionId _ _ =>
            exact raises_bind _ (ensure_persona_walks) (fun ensured =>
              register_as_walks tenant)

end

end AiWorld.Api
