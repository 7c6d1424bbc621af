import AiWorld.Api.SessionGrip

set_option autoImplicit false

namespace AiWorld.Api

open AiWorld.Concurrency AiWorld.Database

variable {loaded : Option AgentRuntimeSession} {known : AgentRuntimeSession} {payload : ClosePayload} {pid tenantId : Nat}

-- What a locking select of a session has given.
def Taken (terms : Terms) (pid c tenantId : Nat) (known : AgentRuntimeSession) : Option AgentRuntimeSession → Sys → Prop
  | none, _ => known.tenantId ≠ tenantId
  | some session, s => (Pinned (.session c) known session ∧ known.tenantId = tenantId) ∧
      (Grips pid c session (StillOpen terms c session) s ∧ Entrusts terms pid session.taskId (fun _ task => task.isSome = true) s)

-- The call is over but for its note: the rows it has written come after those written before.
def Reported (terms : Terms) (pid c : Nat) (closedBy : AgentRuntimeClosedBy) (before : List Key) (frame : Sys → Prop)
    (result : Option Nat × Bool) (s : Sys) : Prop :=
  ∃ news, Composed terms [⟨c, closedBy, result.2, news⟩] none pid s ∧ (frame s ∧ Keys pid (before ++ news) s)

def Grew (pid : Nat) (before : List Key) (s : Sys) : Prop := ∃ news, Keys pid (before ++ news) s

theorem grew_carried {before : List Key} : Carried (Passes pid) (Grew pid before) := by
  rintro s t ⟨news, keys⟩ passes
  obtain ⟨more, grown, -⟩ := passes.keys
  exact ⟨news ++ more, by rw [Keys, grown, keys, List.append_assoc]⟩

section
variable {start : Db} {terms : Terms} {pid : Nat} {request : Request} {due : List CloseCall} {busy : Option Nat} {frame : Sys → Prop}
  {c : Nat} {session : AgentRuntimeSession} {before : List Key} {closedBy : AgentRuntimeClosedBy}

theorem stays_retains (apart : Option Nat) (s t : Sys) (stays : Stays terms pid s t) : Retains apart pid s t :=
  passes_retains apart s t stays.toPasses

theorem framed_lock (read : loaded = none ∨ loaded = some known) (carried : Carried (Stays terms pid) frame) :
    Walks start terms pid request
      (Framed terms due busy pid (fun s => frame s ∧ Known pid c known s))
      (selectForUpdate (.session c) (fun session => session.tenantId = tenantId) loaded)
      (fun found => Framed terms due busy pid (fun s => frame s ∧ Taken terms pid c tenantId known found s)) := by
  refine running_ask (framed_stable (carried_and carried (carried_weaken
    (fun _ _ stays => stays.lasts) (known_carried)))) (fun s query _ _ same => ?_) (fun query write same sets => ?_)
    (fun same => by cases same) (fun s choice found t holds kept inv met executed => ?_)
  · cases same
    exact respects_reading rfl
  · cases same
    cases sets
  obtain ⟨composed, framed, row, stored, pinned⟩ := holds
  rcases exec_locks executed with ⟨missing, rfl, same⟩ | ⟨found, there, wanted, rfl, locked, appends⟩
  · have appends : Appends pid [] s.server t.server := appends_of_same same
    refine ⟨composed_side composed appends (by simp), carried s t framed (reading_stays appends), fun tenant => ?_⟩
    have unwanted := Option.filter_eq_none_iff.mp missing row stored
    rw [pinned] at unwanted
    exact absurd (by simpa using tenant) unwanted
  · obtain rfl : found = row := Option.some.inj (there.symm.trans stored)
    obtain ⟨keptAfter, -, -⟩ := exec_related kept.1 kept.2 (fun query same => by
      cases same
      exact respects_reading rfl) executed
    have composedAfter := composed_side composed appends (by simp)
    have sessions : (t.sees pid).session c = some found := by rw [outside_sessions appends (by simp)]; exact stored
    have tenant : found.tenantId = tenantId := by simpa using wanted
    have knownTenant : known.tenantId = tenantId := by rw [pinned] at tenant; exact tenant
    refine ⟨composedAfter, carried s t framed (reading_stays appends), ?_⟩
    -- The row itself, or the instance that was loaded before the lock.
    rcases read with rfl | rfl
    · have mine : Known pid c found t := ⟨found, sessions, pinned_refl (.session c) found⟩
      refine ⟨⟨pinned, knownTenant⟩, ⟨locked, mine, fun _ _ unended row present => ?_⟩, entrusts_locked composedAfter keptAfter.2 locked mine⟩
      rwa [← Option.some.inj (sessions.symm.trans present)]
    · have mine : Known pid c known t := ⟨found, sessions, pinned⟩
      refine ⟨⟨pinned_refl (.session c) known, knownTenant⟩, ⟨locked, mine, fun asked (kind : known.kind = .session) (unended : known.endedAt = none) row present => ?_⟩,
        entrusts_locked composedAfter keptAfter.2 locked mine⟩
      have opened : stillOpen pid (.db (.selectForUpdate (.session c) (fun session => session.tenantId = tenantId) (some known))) s = true :=
        met.1 asked
      have unendedRow : found.endedAt = none := by
        have seen : (s.sees pid).session c = some found := stored
        simpa [stillOpen, kind, unended, seen] using opened
      rwa [← Option.some.inj (sessions.symm.trans present)]

theorem select_closure_walks (carried : Carried (Stays terms pid) frame) :
    Walks start terms pid request
      (InOrder terms pid (fun s => frame s ∧ Grips pid c session anyFact s)) (select (getExistingClosure c))
      (fun found => InOrder terms pid (fun s => frame s ∧ Grips pid c session (FoundClosure c found) s)) := by
  refine framed_select _ (carried_and carried (stays_of_passes (grips_carried (any_about c))))
    (fun s composed ⟨framed, grips⟩ kept _ => ⟨composed, framed, grips.locked, grips.known, ?_⟩)
  cases found : getExistingClosure c (s.sees pid) with
  | none =>
      have unclosed : ¬ Closed c (s.sees pid) := by
        rintro ⟨closureId, row, stored, whose⟩
        have none := List.find?_eq_none.mp found (closureId, row) ((mem_closures _ _).mpr stored)
        exact none (by simpa using whose)
      refine ⟨unclosed, fun closed => unclosed (closed_stays (kept.2 pid) closed), ?_⟩
      rcases (composed.accounted c (Option.some_ne_none c).symm).counted with ⟨closed, -⟩ | ⟨-, none⟩
      · exact absurd closed unclosed
      · rwa [List.append_nil] at none
  | some closure =>
      have whose := List.find?_some found
      exact ⟨by simpa using whose, (mem_closures _ closure).mp (List.mem_of_find?_eq_some found)⟩

theorem over_of_closed {fact : SessionFact} {s : Sys} (composed : Composed terms due none pid s) (grips : Grips pid c session fact s)
    (kind : session.kind = .subagent) (closed : Closed c (s.sees pid)) : Over pid c s := by
  obtain ⟨row, stored, pinned⟩ := grips.known
  have kindToo : row.kind = .subagent := by rw [pinned]; exact kind
  exact ⟨row, stored, (composed.paired c (Option.some_ne_none c).symm row stored kindToo).mp closed⟩

variable {closure : Loaded AgentRuntimeClosure} {t : Sys} {time : Nat} {outcome : AgentRuntimeOutcome}

theorem found_over {s : Sys} (composed : Composed terms due none pid s)
    (grips : Grips pid c session (FoundClosure c (some closure)) s) (kind : session.kind = .subagent) : Over pid c s :=
  over_of_closed composed grips kind ⟨closure.1, closure.2, grips.fact.2, grips.fact.1⟩

theorem reported_idle {s : Sys} (composed : Composed terms [] none pid s) (framed : frame s) (keys : Keys pid before s) (id : Option Nat) :
    Reported terms pid c closedBy before frame (id, false) s :=
  ⟨[], composed_idle_call composed rfl (fun _ key member => by cases member), framed, by rw [List.append_nil]; exact keys⟩

-- A hook's close of a subagent that the reaper has closed.
theorem late_closed {s : Sys} (composed : Composed terms [] none pid s)
    (grips : Grips pid c session (FoundClosure c (some closure)) s) (kind : session.kind = .subagent)
    (appends : Appends pid [.change (.closure closure.1) (lateColumns time)] s.server t.server) :
    Composed terms [⟨c, .hook, false, [.closure closure.1]⟩] none pid t := by
  obtain ⟨whose, stored⟩ := grips.fact
  have storedAfter : (t.sees pid).closure closure.1 = some (lateColumns time closure.2) := by
    have cell : (t.sees pid).closure closure.1 = ((s.sees pid).closure closure.1).map (lateColumns time) :=
      appends_here appends
    rw [cell, stored, Option.map_some]
  have sessions := outside_sessions appends (by simp [Write.key])
  have closed : Closed c (s.sees pid) := ⟨closure.1, closure.2, stored, whose⟩
  have closedAfter : Closed c (t.sees pid) := ⟨closure.1, _, storedAfter, whose⟩
  obtain ⟨row, known, pinned⟩ := grips.known
  have kindToo : row.kind = .subagent := by rw [pinned]; exact kind
  have after : Composed terms [] (some c) pid t := composed_closure composed c (lateColumns time closure.2) (.inl rfl) rfl appends whose storedAfter
    (fun old present => Option.some.inj (stored.symm.trans present) ▸ whose) ⟨row, known, kindToo⟩
  have db : t.db = s.db := appends.db
  have before := composed.accounted c (Option.some_ne_none c).symm
  rw [List.append_nil] at before
  refine composed_settled after (.inr rfl) rfl (fun new => by cases new) ?_ ?_ ?_
  · intro _ key member
    rw [List.mem_singleton.mp member]
    rfl
  · intro found present subagent
    rw [sessions] at present
    exact ⟨fun _ => (composed.paired c (Option.some_ne_none c).symm found present subagent).mp closed, fun _ => closedAfter⟩
  · rw [appends.pending, db]
    constructor
    · rw [List.countP_append, List.countP_singleton, if_neg (by simp [newFor]), Nat.add_zero]
      exact before.counted.imp (fun new => ⟨closedAfter, new.2⟩) (fun old => ⟨fun _ => old.1 closed, old.2⟩)
    · intro closureId found present mine late
      by_cases same : closureId = closure.1
      · exact .inr ⟨_, List.mem_append_right _ (List.mem_singleton.mpr rfl), rfl, rfl, rfl, List.mem_singleton.mpr (congrArg Key.closure same)⟩
      · have there : (s.sees pid).closure closureId = some found := by
          rw [← present]
          exact (appends_elsewhere appends (by simpa [Write.key] using fun here => same here.symm)).symm
        refine (before.late closureId found there mine late).imp_right (fun noted => ?_)
        obtain ⟨call, member, fits⟩ := noted
        exact ⟨call, List.mem_append_left _ member, fits⟩

theorem late_close_walks (kind : session.kind = .subagent) (carried : Carried (Retains (some c) pid) frame) :
    Walks start terms pid request
      (InOrder terms pid (fun s => (frame s ∧ Keys pid before s) ∧ Grips pid c session (FoundClosure c (some closure)) s))
      (lateClose closedBy closure)
      (fun _ => Reported terms pid c closedBy before (fun s => frame s ∧ Over pid c s) (some closure.1, false)) := by
  have stays : Carried (Stays terms pid) (fun s => (frame s ∧ Keys pid before s) ∧ Grips pid c session (FoundClosure c (some closure)) s) :=
    carried_and (carried_and (stays_of_retains carried) (keys_carried terms pid before))
      (stays_of_passes (grips_carried (found_closure_about c _)))
  unfold lateClose
  split
  next late =>
    obtain ⟨rfl, reaper, unlate⟩ := late
    refine raises_bind _ (framed_now stays) (fun (time : Nat) => ?_)
    refine running_ask (framed_stable stays) ?_ ?_
      (fun same => by cases same) ?_
    · rintro s query kept ⟨-, -, grips⟩ same
      cases same
      refine respects_own (runtime_rule_trans terms) kept.2 (fun write sets _ => ?_)
      cases sets
      obtain ⟨whose, stored⟩ := grips.fact
      change ClosureCell _ ((s.sees pid).closure closure.1) (((s.sees pid).closure closure.1).map (lateColumns time))
      rw [stored]
      exact ⟨rfl, .inr ⟨unlate, reaper, whose ▸ grips.locked⟩⟩
    · intro query write same sets
      cases same
      cases sets
      exact fun row entry listed => listed
    · rintro s choice answer t ⟨composed, ⟨framed, keys⟩, grips⟩ kept inv - executed
      obtain ⟨whose, stored⟩ := grips.fact
      rcases exec_update executed with ⟨absent, -⟩ | ⟨-, appends⟩
      · cases absent.symm.trans stored
      have cell : (t.sees pid).closure closure.1 = ((s.sees pid).closure closure.1).map (lateColumns time) :=
        appends_here appends
      have carries : Retains (some c) pid s t := by
        refine closure_retains closure.1 rfl appends (fun old there => ?_) (fun row there => ?_)
        · rwa [Option.some.inj (there.symm.trans stored)]
        · rw [cell, stored] at there
          exact Option.some.inj there ▸ whose
      refine ⟨[.closure closure.1], late_closed composed grips kind appends,
        ⟨carried s t framed carries, over_carried s t (found_over composed grips kind) carries.lasts⟩, ?_⟩
      rw [Keys, stagedKeys, appends_keys appends]
      exact congrArg (· ++ [Key.closure closure.1]) keys
  · exact raises_pure _ (fun s holds =>
      reported_idle holds.1 ⟨holds.2.1.1, found_over holds.1 holds.2.2 kind⟩ holds.2.1.2 _)

-- The closure of a session that had none.
theorem closing_inserted {s : Sys} (closedBy : AgentRuntimeClosedBy) (composed : Composed terms [] none pid s)
    (grips : Grips pid c session (Unclosed c) s) (kind : session.kind = .subagent) {id : Nat} {row : AgentRuntimeClosure}
    (whose : row.runtimeSessionId = c) (unlate : row.lateCloseAt = none) (absent : (s.sees pid).closure id = none)
    (appends : Appends pid [.put (.closure id) row] s.server t.server) :
    Composed terms [] (some c) pid t ∧ Grips pid c session (Closing c closedBy) t ∧ Retains (some c) pid s t := by
  have stored : (t.sees pid).closure id = some row := appends_here appends
  have sessions := outside_sessions appends (by simp [Write.key])
  have unseen : ∀ old, (s.sees pid).closure id = some old → old.runtimeSessionId = c := fun old present => by
    cases absent.symm.trans present
  obtain ⟨found, known, pinned⟩ := grips.known
  have kindToo : found.kind = .subagent := by rw [pinned]; exact kind
  have carries : Retains (some c) pid s t := closure_retains id rfl appends unseen
    (fun other present => Option.some.inj (stored.symm.trans present) ▸ whose)
  refine ⟨composed_closure composed c row (.inl rfl) rfl appends whose stored unseen ⟨found, known, kindToo⟩,
    ⟨appends.keyLock _ grips.locked, ⟨found, by rw [sessions]; exact known, pinned⟩, ⟨id, row, stored, whose⟩, fun news => ?_⟩, carries⟩
  have db : t.db = s.db := appends.db
  rw [appends.pending, db]
  refine ⟨.inl ⟨⟨id, row, stored, whose⟩, grips.fact.committed, ?_⟩, fun closureId other present mine late => ?_⟩
  · rw [List.countP_append, grips.fact.uncounted, List.countP_singleton, if_pos (by simp [newFor])]
  · by_cases same : closureId = id
    · subst same
      rw [← Option.some.inj (stored.symm.trans present)] at late
      exact absurd unlate late
    · have there : (s.sees pid).closure closureId = some other := by
        rw [← present]
        exact (appends_elsewhere appends (by simpa [Write.key] using fun here => same here.symm)).symm
      exact absurd ⟨closureId, other, there, mine⟩ grips.fact.seen

-- What is left to do once the INSERT of the closure has answered.
def Inserted (terms : Terms) (pid c : Nat) (session : AgentRuntimeSession) (closedBy : AgentRuntimeClosedBy) (before : List Key)
    (frame : Sys → Prop) (task : Option (Loaded Task)) : Bool → Sys → Prop
  | true, s => Composed terms [] (some c) pid s ∧
      (((frame s ∧ Grew pid before s) ∧ Grips pid c session (Closing c closedBy) s) ∧ Entrusts terms pid session.taskId (readAs task) s)
  | false, s => Composed terms [] none pid s ∧ ((frame s ∧ Keys pid before s) ∧ Grips pid c session anyFact s)

theorem insert_closure_walks (id : Nat) (row : AgentRuntimeClosure) (whose : row.runtimeSessionId = c) (unlate : row.lateCloseAt = none)
    (kind : session.kind = .subagent) {task : Option (Loaded Task)} (carried : Carried (Retains (some c) pid) frame) :
    Walks start terms pid request
      (InOrder terms pid (fun s => ((frame s ∧ Keys pid before s) ∧ Grips pid c session (Unclosed c) s) ∧ Entrusts terms pid session.taskId (readAs task) s))
      (tryInsert (.closure id) row) (Inserted terms pid c session closedBy before frame task) := by
  have stays : Carried (Stays terms pid) (fun s =>
      ((frame s ∧ Keys pid before s) ∧ Grips pid c session (Unclosed c) s) ∧ Entrusts terms pid session.taskId (readAs task) s) :=
    carried_and (carried_and (carried_and (stays_of_retains carried) (keys_carried terms pid before))
      (stays_of_passes (grips_carried (unclosed_about c))))
      (stays_of_sides (entrusts_carried _ _))
  refine running_ask (framed_stable stays) ?_ ?_ (fun same => by cases same) ?_
  · rintro s query kept ⟨-, ⟨-, grips⟩, -⟩ same
    cases same
    refine respects_own (runtime_rule_trans terms) kept.2 (fun write sets accepted => ?_)
    cases sets
    have absent : (s.sees pid).closure id = none := accepts_absent accepted
    change ClosureCell _ ((s.sees pid).closure id) (some row)
    rw [absent]
    change s.server.keyLock (.session row.runtimeSessionId) = some pid
    rw [whose]
    exact grips.locked
  · intro query write same sets
    cases same
    cases sets
    trivial
  · rintro s choice inserted t ⟨composed, ⟨⟨framed, keys⟩, grips⟩, entrusts⟩ kept inv - executed
    rcases exec_inserts executed with ⟨rfl, same⟩ | ⟨rfl, accepted, appends⟩
    · have appends : Appends pid [] s.server t.server := appends_of_same same
      have reading : Stays terms pid s t := reading_stays appends
      exact ⟨composed_side composed appends (by simp),
        ⟨carried s t framed (stays_retains (some c) s t reading), keys_carried terms pid before s t keys reading⟩,
        grips_carried (any_about c) s t (grips_weaken (fun _ _ _ _ => trivial) grips) reading.toPasses⟩
    · obtain ⟨after, closing, carries⟩ := closing_inserted closedBy composed grips kind whose unlate
        (accepts_absent accepted) appends
      refine ⟨after, ⟨⟨carried s t framed carries, [.closure id], ?_⟩, closing⟩, entrusts_appended appends (by simp [Write.key]) entrusts⟩
      rw [Keys, stagedKeys, appends_keys appends]
      exact congrArg (· ++ [Key.closure id]) keys

-- A session ends once, in the hands of the process.
theorem ends_respects {s : Sys} (kept : Kept (runtimeRule terms) s)
    (grips : Grips pid c session (StillOpen terms c session) s ∨ session.kind = .subagent)
    (locked : s.server.keyLock (.session c) = some pid) (known : Known pid c session s)
    (unended : session.kind = .session → session.endedAt = none) :
    Respects (runtimeRule terms) schema pid (.update (.session c) session (endColumns time outcome)) s.server := by
  refine respects_own (runtime_rule_trans terms) kept.2 (fun write sets _ => ?_)
  cases sets
  obtain ⟨row, stored, pinned⟩ := known
  change SessionCell _ _ c ((s.sees pid).session c) (((s.sees pid).session c).map (endColumns time outcome))
  rw [stored]
  refine ⟨rfl, fun _ => Option.some_ne_none time, .inr locked, fun asked kind => .inr ⟨?_, Option.some_ne_none time⟩⟩
  rw [pinned] at kind
  rcases grips with grips | subagent
  · exact grips.fact asked kind (unended kind) row stored
  · cases subagent.symm.trans kind

theorem end_child_walks (id : Option Nat) (kind : session.kind = .subagent) (carried : Carried (Retains (some c) pid) frame) :
    Walks start terms pid request
      (Framed terms [] (some c) pid (fun s => ((frame s ∧ Grew pid before s) ∧ Grips pid c session (Closing c closedBy) s) ∧ Entrusts terms pid session.taskId terminalRow s))
      (endRow c session outcome)
      (fun _ => Reported terms pid c closedBy before (fun s => frame s ∧ Over pid c s) (id, true)) := by
  have stays : Carried (Stays terms pid) (fun s =>
      ((frame s ∧ Grew pid before s) ∧ Grips pid c session (Closing c closedBy) s) ∧ Entrusts terms pid session.taskId terminalRow s) :=
    carried_and (stays_of_passes
        (carried_and (carried_and (carried_weaken (passes_retains (some c)) carried) (grew_carried))
          (grips_carried (closing_about c closedBy))))
      (stays_of_sides (entrusts_carried _ _))
  refine raises_bind _ (framed_now stays) (fun (time : Nat) => ?_)
  refine running_ask (framed_stable stays) ?_ ?_ (fun same => by cases same) ?_
  · rintro s query kept ⟨-, ⟨-, grips⟩, -⟩ same
    cases same
    exact ends_respects kept (.inr kind) grips.locked grips.known (fun other => by cases kind.symm.trans other)
  · intro query write same sets
    cases same
    cases sets
    exact shrinks_apart (fun id same => by cases same)
  · rintro s choice answer t ⟨composed, ⟨⟨framed, news, keys⟩, grips⟩, entrusts⟩ kept inv - executed
    obtain ⟨row, stored, pinned⟩ := grips.known
    have kindToo : row.kind = .subagent := by rw [pinned]; exact kind
    rcases exec_update executed with ⟨absent, -⟩ | ⟨-, appends⟩
    · cases absent.symm.trans stored
    have sets : Sets pid c (endColumns time outcome) row s t := ⟨appends, stored, rfl, fun _ => Option.some_ne_none time⟩
    have carries : Retains (some c) pid s t := sets_retains sets
    have db : t.db = s.db := appends.db
    have closures := (sets_apart sets).1
    have after : Composed terms [] (some c) pid t := by
      refine composed_session sets composed (fun other => absurd rfl other) (fun _ session => by cases kindToo.symm.trans session)
        (fun asked _ _ _ taskId task named present => ?_)
      rw [pinned] at named
      obtain ⟨-, found, there, terminal⟩ := entrusts asked taskId named
      rwa [← Option.some.inj (there.symm.trans present)]
    have closed : Closed c (t.sees pid) := by
      rw [Closed, closures]
      exact grips.fact.closed
    refine ⟨news ++ [.session c], ?_, ⟨carried s t framed carries, _, sets_here sets, Option.some_ne_none time⟩, ?_⟩
    · refine composed_settled after (.inr rfl) rfl (fun _ => appends.keyLock _ grips.locked) (fun old => by cases old) ?_ ?_
      · intro found present _
        rw [← Option.some.inj ((sets_here sets).symm.trans present)]
        exact ⟨fun _ => Option.some_ne_none time, fun _ => closed⟩
      · rw [appends.pending, db]
        exact accounted_closures closures (grips.fact.accounted _)
    · rw [Keys, stagedKeys, appends_keys appends, ← List.append_assoc]
      exact congrArg (· ++ [Key.session c]) keys

theorem close_target_terminal (outcome : AgentRuntimeCloseOutcome) : terminalTask (closeTarget outcome) = true := by
  cases outcome <;> rfl

theorem close_open_walks (kind : session.kind = .subagent) (carried : Carried (Retains (some c) pid) frame) :
    Walks start terms pid request
      (InOrder terms pid (fun s => ((frame s ∧ Keys pid before s) ∧ Grips pid c session (Unclosed c) s) ∧ Entrusts terms pid session.taskId (fun _ task => task.isSome = true) s))
      (closeOpen tenantId c session closedBy payload)
      (Reported terms pid c closedBy before (fun s => frame s ∧ Over pid c s)) := by
  have framed : Carried (Stays terms pid) (fun s => (frame s ∧ Keys pid before s) ∧ Grips pid c session (Unclosed c) s) :=
    carried_and (carried_and (stays_of_retains carried) (keys_carried terms pid before))
      (stays_of_passes (grips_carried (unclosed_about c)))
  refine raises_bind _ (load_task_walks framed) (fun task => raises_fact (fun readOf => ?_))
  have both := carried_and framed (stays_of_sides (entrusts_carried session.taskId (readAs task)))
  refine raises_bind _ (framed_new_id both) (fun id => ?_)
  refine raises_bind _ (framed_now both) (fun time => ?_)
  refine raises_bind (Inserted terms pid c session closedBy before frame task) (insert_closure_walks id (newClosure tenantId c session.taskId closedBy payload time) rfl rfl kind carried) (fun (inserted : Bool) => ?_)
  cases inserted with
  | true =>
      have passes : Carried (Passes pid) (fun s => (frame s ∧ Grew pid before s) ∧ Grips pid c session (Closing c closedBy) s) :=
        carried_and (carried_and (carried_weaken (passes_retains (some c)) carried) (grew_carried))
          (grips_carried (closing_about c closedBy))
      refine raises_bind _ (advance_task_walks
        (close_target_terminal payload.outcome) readOf passes) (fun _ => ?_)
      refine raises_bind _ (end_child_walks (some id) kind carried) (fun _ => ?_)
      exact raises_pure _ (fun _ holds => holds)
  | false =>
      refine raises_bind _ (select_closure_walks (carried_and (stays_of_retains carried)
        (keys_carried terms pid before))) (fun found => ?_)
      cases found with
      | none => exact walks_throw
      | some closure =>
          exact raises_pure _ (fun s ⟨composed, ⟨framed, keys⟩, grips⟩ =>
            reported_idle composed ⟨framed, found_over composed grips kind⟩ keys _)

theorem close_locked_walks (kind : session.kind = .subagent) (carried : Carried (Retains (some c) pid) frame) :
    Walks start terms pid request
      (InOrder terms pid (fun s => ((frame s ∧ Keys pid before s) ∧ Entrusts terms pid session.taskId (fun _ task => task.isSome = true) s) ∧ Grips pid c session anyFact s))
      (closeLocked tenantId c session closedBy payload)
      (Reported terms pid c closedBy before (fun s => frame s ∧ Over pid c s)) := by
  refine raises_bind _ (select_closure_walks (carried_and (carried_and (stays_of_retains carried)
    (keys_carried terms pid before)) (stays_of_sides (entrusts_carried _ _)))) (fun found => ?_)
  cases found with
  | some closure =>
      refine raises_bind _ (raises_before (late_close_walks kind carried)
        (fun s ⟨composed, ⟨framed, _⟩, grips⟩ => ⟨composed, framed, grips⟩)) (fun _ => ?_)
      exact raises_pure _ (fun _ holds => holds)
  | none =>
      exact raises_before (close_open_walks kind carried)
        (fun s ⟨composed, ⟨framed, entrusts⟩, grips⟩ => ⟨composed, ⟨framed, grips⟩, entrusts⟩)

-- The subagent is over if it was found, and it is found in the tenant it belongs to.
def Ended (pid c tenantId : Nat) (known : AgentRuntimeSession) (s : Sys) : Prop := known.tenantId = tenantId → Over pid c s

theorem ended_carried : Carried (Lasts pid) (Ended pid c tenantId known) :=
  fun s t holds lasts tenant => over_carried s t (holds tenant) lasts

theorem close_body_walks (read : loaded = none ∨ loaded = some known) (kind : known.kind = .subagent)
    (carried : Carried (Retains (some c) pid) frame) :
    Walks start terms pid request
      (InOrder terms pid (fun s => (frame s ∧ Keys pid before s) ∧ Known pid c known s))
      (closeTaskBody tenantId c closedBy payload loaded)
      (Reported terms pid c closedBy before (fun s => frame s ∧ Ended pid c tenantId known s)) := by
  refine raises_bind _ (framed_lock read (carried_and (stays_of_retains carried)
    (keys_carried terms pid before))) (fun found => ?_)
  cases found with
  | none =>
      exact raises_pure _ (fun s ⟨composed, ⟨framed, keys⟩, foreign⟩ =>
        reported_idle composed ⟨framed, fun tenant => absurd tenant foreign⟩ keys none)
  | some session =>
      refine raises_given (fun s ⟨_, _, ⟨pinned, _⟩, _⟩ => pinned) (fun pinned => ?_)
      have kindToo : session.kind = .subagent := by rw [pinned]; exact kind
      exact raises_weaken (close_locked_walks kindToo carried)
        (fun s ⟨composed, framed, _, grips, entrusts⟩ => ⟨composed, ⟨framed, entrusts⟩, grips_weaken (fun _ _ _ _ => trivial) grips⟩)
        (fun _ s ⟨news, composed, ⟨framed, ended⟩, keys⟩ => ⟨news, composed, ⟨framed, fun _ => ended⟩, keys⟩) (fun _ _ holds => holds)

theorem framed_written (carried : Carried (Stays terms pid) frame) :
    Walks start terms pid request (Framed terms due busy pid frame) written
      (fun keys => Framed terms due busy pid (fun s => frame s ∧ Keys pid keys s)) := by
  refine running_ask (framed_stable carried) (fun s query _ _ same => ?_) (fun query write same sets => ?_)
    (fun same => by cases same) (fun s choice keys t ⟨composed, framed⟩ kept inv _ executed => ?_)
  · cases same
    exact respects_reading rfl
  · cases same
    cases sets
  · have appends := exec_reads rfl rfl executed
    refine ⟨composed_side composed appends (by simp), carried s t framed (reading_stays appends), ?_⟩
    cases executed
    rfl

theorem note_walks {call : CloseCall} (carried : Carried (Retains (some c) pid) frame) :
    Walks start terms pid request (Framed terms [call] none pid frame) (note call)
      (fun _ => InOrder terms pid frame) := by
  refine running_ask (framed_stable (stays_of_retains carried)) (fun s query _ _ same => ?_)
    (fun query write same sets => ?_) (fun same => by cases same) (fun s choice answer t ⟨composed, framed⟩ kept inv _ executed => ?_)
  · cases same
    exact respects_reading rfl
  · cases same
    cases sets
  · have after : t.server = s.server.notes pid call := by
      cases executed
      rfl
    exact ⟨composed_noted composed after, carried s t framed (noted_retains after)⟩

-- However many calls of `close_task` a transaction makes, it is in order after each.
theorem close_task_walks (closedBy : AgentRuntimeClosedBy) (payload : ClosePayload) (read : loaded = none ∨ loaded = some known) (kind : known.kind = .subagent)
    (carried : Carried (Retains (some c) pid) frame) :
    Walks start terms pid request (InOrder terms pid (fun s => frame s ∧ Known pid c known s))
      (closeTask tenantId c closedBy payload loaded)
      (fun _ => InOrder terms pid (fun s => frame s ∧ Ended pid c tenantId known s)) := by
  have knows : Carried (Retains (some c) pid) (Known pid c known) := carried_weaken (fun _ _ moves => moves.lasts) (known_carried)
  have ends : Carried (Retains (some c) pid) (fun s => frame s ∧ Ended pid c tenantId known s) :=
    carried_and carried (carried_weaken (fun _ _ moves => moves.lasts) (ended_carried))
  refine raises_bind _ (framed_written (stays_of_retains (carried_and carried knows))) (fun before => ?_)
  refine raises_bind (Reported terms pid c closedBy before (fun s => frame s ∧ Ended pid c tenantId known s))
    (raises_before (close_body_walks read kind carried)
      (fun s ⟨composed, ⟨framed, mine⟩, keys⟩ => ⟨composed, ⟨framed, keys⟩, mine⟩))
    (fun result => raises_exists (fun news => ?_))
  refine raises_bind _ (framed_written (carried_and (stays_of_retains ends) (keys_carried terms pid _))) (fun after => ?_)
  refine raises_given (fun s ⟨_, ⟨_, keys⟩, again⟩ => (Eq.trans again.symm keys : after = before ++ news)) (fun same => ?_)
  subst same
  rw [List.drop_left]
  refine raises_bind _ (raises_weaken (note_walks ends) (fun s ⟨composed, ⟨framed, _⟩, _⟩ => ⟨composed, framed⟩) (fun _ _ holds => holds)
    (fun _ _ holds => holds)) (fun _ => ?_)
  exact raises_done

end

end AiWorld.Api
