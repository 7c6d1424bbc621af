import AiWorld.Api.TaskWalks

set_option autoImplicit false

namespace AiWorld.Api

open AiWorld.Concurrency AiWorld.Database

variable {call : CloseCall}

-- A fact about one session: the calls noted for it, and the rows that are committed and
-- that the process sees.
abbrev SessionFact := List CloseCall → Db → Db → Prop

def About (c : Nat) (fact : SessionFact) : Prop :=
  ∀ calls before after seen seenAfter, SameAt c before after → SameAt c seen seenAfter → fact calls before seen → fact calls after seenAfter

def anyFact : SessionFact := fun _ _ _ => True

-- A session that the process has locked, with the instance it works on.
structure Grips (pid c : Nat) (session : AgentRuntimeSession) (fact : SessionFact) (s : Sys) : Prop where
  locked : s.server.keyLock (.session c) = some pid
  known : Known pid c session s
  fact : fact (s.server.pending pid) s.db (s.sees pid)

theorem any_about (c : Nat) : About c anyFact := fun _ _ _ _ _ _ _ _ => trivial

variable {pid c : Nat} {session : AgentRuntimeSession} {fact : SessionFact}

theorem grips_carried (about : About c fact) : Carried (Passes pid) (Grips pid c session fact) := by
  intro s t grips passes
  obtain ⟨seen, committed⟩ := passes.same c (Option.some_ne_none c).symm grips.locked
  refine ⟨passes.keyLock _ grips.locked, known_carried s t grips.known passes.lasts, ?_⟩
  rw [passes.pending]
  exact about _ _ _ _ _ committed seen grips.fact

-- A fact that the notes have no part in survives the closing of another session.
theorem grips_apart {apart : Option Nat} (other : apart ≠ some c) (about : About c fact)
    (unnoted : ∀ calls more committed seen, fact calls committed seen → fact more committed seen) :
    Carried (Retains apart pid) (Grips pid c session fact) := by
  intro s t grips carries
  obtain ⟨seen, committed⟩ := carries.same c other grips.locked
  exact ⟨carries.keyLock _ grips.locked, known_carried s t grips.known carries.lasts,
    unnoted _ _ _ _ (about _ _ _ _ _ committed seen grips.fact)⟩

theorem grips_weaken {weaker : SessionFact} {s : Sys}
    (implies : ∀ calls before seen, fact calls before seen → weaker calls before seen) (grips : Grips pid c session fact s) :
    Grips pid c session weaker s := { grips with fact := implies _ _ _ grips.fact }

-- An open row that was read before the lock is open under the lock too, if that is asked.
def StillOpen (terms : Terms) (c : Nat) (session : AgentRuntimeSession) : SessionFact := fun _ _ seen =>
  terms.endsOnce → session.kind = .session → session.endedAt = none → ∀ row, seen.session c = some row → row.endedAt = none

theorem still_open_about (terms : Terms) (c : Nat) (session : AgentRuntimeSession) : About c (StillOpen terms c session) := by
  intro calls before after seen seenAfter _ same holds asked kind unended row stored
  exact holds asked kind unended row (same.session.symm.trans stored)

structure Unclosed (c : Nat) (calls : List CloseCall) (committed seen : Db) : Prop where
  seen : ¬ Closed c seen
  committed : ¬ Closed c committed
  uncounted : calls.countP (newFor c) = 0

theorem unclosed_about (c : Nat) : About c (Unclosed c) := fun _ _ _ _ _ same sameSeen holds =>
  ⟨fun closed => holds.seen ((closed_same sameSeen).mp closed), fun closed => holds.committed ((closed_same same).mp closed),
    holds.uncounted⟩

-- The closure is there and the call that has inserted it will be noted.
structure Closing (c : Nat) (closedBy : AgentRuntimeClosedBy) (calls : List CloseCall) (committed seen : Db) : Prop where
  closed : Closed c seen
  accounted : ∀ news, Accounted c (calls ++ [⟨c, closedBy, true, news⟩]) committed seen

theorem closing_about (c : Nat) (closedBy : AgentRuntimeClosedBy) : About c (Closing c closedBy) :=
  fun _ _ _ _ _ same sameSeen holds => ⟨(closed_same sameSeen).mpr holds.closed, fun news =>
    accounted_same sameSeen same (holds.accounted news)⟩

-- What `_get_existing_closure` has found.
def FoundClosure (c : Nat) : Option (Loaded AgentRuntimeClosure) → SessionFact
  | none => Unclosed c
  | some closure => fun _ _ seen => closure.2.runtimeSessionId = c ∧ seen.closure closure.1 = some closure.2

theorem found_closure_about (c : Nat) (found : Option (Loaded AgentRuntimeClosure)) : About c (FoundClosure c found) := by
  cases found with
  | none => exact unclosed_about c
  | some closure => exact fun _ _ _ _ _ _ same holds => ⟨holds.1, (same.closures closure.1 closure.2 holds.1).mpr holds.2⟩

def Over (pid c : Nat) (s : Sys) : Prop := ∃ row, (s.sees pid).session c = some row ∧ row.endedAt ≠ none

theorem over_carried : Carried (Lasts pid) (Over pid c) := by
  rintro s t ⟨row, stored, ended⟩ lasts
  obtain ⟨found, present, further⟩ := lasts c row stored
  exact ⟨found, present, further.stays ended⟩

def Keys (pid : Nat) (keys : List Key) (s : Sys) : Prop := stagedKeys pid s = keys

theorem keys_carried (terms : Terms) (pid : Nat) (keys : List Key) : Carried (Stays terms pid) (Keys pid keys) := by
  intro s t holds stays
  rw [Keys, stagedKeys, stays.staged]
  exact holds

theorem accounted_call {id : Nat} {calls : List CloseCall} {before after : Db} (old : newFor id call = false)
    (accounted : Accounted id calls before after) : Accounted id (calls ++ [call]) before after where
  counted := by
    rw [List.countP_append, List.countP_singleton, if_neg (by simp [old]), Nat.add_zero]
    exact accounted.counted
  late := fun closureId row stored whose closedLate =>
    (accounted.late closureId row stored whose closedLate).imp_right (fun ⟨known, member, fits⟩ =>
      ⟨known, List.mem_append_left _ member, fits⟩)

section
variable {start : Db} {terms : Terms} {pid : Nat} {s t : Sys} {busy : Option Nat} {c : Nat}

-- The call is as good as noted once its session is in order.
theorem composed_settled (composed : Composed terms [] busy pid s) (idle : busy = none ∨ busy = some c)
    (whose : call.runtimeSessionId = c) (locked : call.isNew = true → s.server.keyLock (.session c) = some pid)
    (fine : CallFine call) (paired : EndedIffClosed c (s.sees pid))
    (accounted : Accounted c (s.server.pending pid ++ [call]) s.db (s.sees pid)) : Composed terms [call] none pid s := by
  have free (id : Nat) (other : id ≠ c) : busy ≠ some id := by
    rcases idle with rfl | rfl
    · exact (Option.some_ne_none id).symm
    · exact fun same => other (Option.some.inj same).symm
  refine { composed with paired := fun id _ => ?_, accounted := fun id _ => ?_, holds := ?_, fine := ?_ }
  · by_cases same : id = c
    · exact same ▸ paired
    · exact composed.paired id (free id same)
  · by_cases same : id = c
    · exact same ▸ accounted
    · have before := composed.accounted id (free id same)
      rw [List.append_nil] at before
      exact accounted_call (by simp [newFor, whose, Ne.symm same]) before
  · intro other member new
    rcases List.mem_append.mp member with old | fresh
    · exact composed.holds other (List.mem_append_left _ old) new
    · rw [List.mem_singleton.mp fresh] at new ⊢
      exact whose ▸ locked new
  · intro other member
    rcases List.mem_append.mp member with old | fresh
    · exact composed.fine other (List.mem_append_left _ old)
    · rw [List.mem_singleton.mp fresh]
      exact fine

-- A call that has closed nothing.
theorem composed_idle_call (composed : Composed terms [] none pid s) (old : call.isNew = false) (fine : CallFine call) :
    Composed terms [call] none pid s := by
  have free := (Option.some_ne_none call.runtimeSessionId).symm
  refine composed_settled composed (.inl rfl) rfl (fun new => ?_) fine (composed.paired _ free) (accounted_call ?_ ?_)
  · cases old.symm.trans new
  · simp [newFor, old]
  · have before := composed.accounted _ free
    rwa [List.append_nil] at before

theorem composed_noted (composed : Composed terms [call] none pid s) (after : t.server = s.server.notes pid call) :
    Composed terms [] none pid t := by
  have pending : t.server.pending pid = s.server.pending pid ++ [call] := by simp [after, Server.notes]
  have db : t.db = s.db := by rw [Sys.db, after]; rfl
  have view : t.sees pid = s.sees pid := by rw [Sys.sees, after]; rfl
  have keyLock : t.server.keyLock = s.server.keyLock := by rw [after]; rfl
  have staged : t.server.staged pid = s.server.staged pid := by rw [after]; rfl
  have rowLock : t.server.rowLock = s.server.rowLock := by rw [after]; rfl
  constructor
  · exact view ▸ composed.kin
  · exact view ▸ composed.owned
  · exact fun id other => view ▸ composed.paired id other
  · intro id other
    rw [pending, List.append_nil, db, view]
    exact composed.accounted id other
  · rw [pending, List.append_nil, keyLock]
    exact composed.holds
  · rw [pending, List.append_nil]
    exact composed.fine
  · exact fun asked => view ▸ composed.sheltered asked
  · intro asked
    have hold := composed.tasks asked
    refine ⟨⟨view ▸ hold.apart, view ▸ hold.held, view ▸ hold.done⟩, ?_, ?_⟩
    · rw [staged, db, keyLock]
      exact hold.owns
    · rw [view, db, rowLock]
      exact hold.fresh

theorem noted_retains (after : t.server = s.server.notes pid call) : Retains (some c) pid s t := by
  have db : t.db = s.db := by rw [Sys.db, after]; rfl
  have view : t.sees pid = s.sees pid := by rw [Sys.sees, after]; rfl
  refine ⟨fun id row stored => ⟨row, view ▸ stored, row_lasts_refl id row⟩, fun key held => ?_, fun id _ _ => ?_, fun id row parentId stored _ _ =>
    ⟨row, view ▸ stored⟩⟩
  · rw [after]
    exact held
  · rw [db, view]
    exact ⟨same_at_refl id _, same_at_refl id _⟩

-- The process writes a closure of the session.
theorem closure_retains {write : Write Row} (closureId : Nat) (key : write.key = .closure closureId)
    (appends : Appends pid [write] s.server t.server)
    (before : ∀ old, (s.sees pid).closure closureId = some old → old.runtimeSessionId = c)
    (after : ∀ row, (t.sees pid).closure closureId = some row → row.runtimeSessionId = c) : Retains (some c) pid s t := by
  have sessions := outside_sessions appends (fun written member other same => by
    rw [List.mem_singleton.mp member, key] at same
    cases same)
  have db : t.db = s.db := appends.db
  refine ⟨fun id row stored => ⟨row, by rw [sessions]; exact stored, row_lasts_refl id row⟩, appends.keyLock, fun id apart _ => ?_,
    fun id row parentId stored _ _ => ⟨row, by rw [← sessions]; exact stored⟩⟩
  rw [db]
  refine ⟨⟨congrFun sessions id, fun other row whose => ?_⟩, same_at_refl id _⟩
  by_cases same : other = closureId
  · subst same
    refine ⟨fun stored => ?_, fun stored => ?_⟩
    · exact absurd (congrArg some ((after row stored).symm.trans whose)) apart
    · exact absurd (congrArg some ((before row stored).symm.trans whose)) apart
  · rw [show (t.sees pid).closure other = (s.sees pid).closure other from appends_elsewhere appends
      (fun written member here => by
        rw [List.mem_singleton.mp member, key] at here
        cases here
        exact same rfl)]

theorem sets_retains {columns : AgentRuntimeSession → AgentRuntimeSession} {row : AgentRuntimeSession} (sets : Sets pid c columns row s t) :
    Retains (some c) pid s t := by
  have db : t.db = s.db := sets.appends.db
  refine ⟨fun id old stored => ?_, sets.appends.keyLock, fun id apart _ => ?_, fun id found parentId stored _ _ => ?_⟩
  · obtain ⟨found, present, pinned, stays⟩ := sets_lasts sets stored
    exact ⟨found, present, pinned, stays⟩
  · rw [db]
    refine ⟨⟨sets_elsewhere sets (fun same => apart (congrArg some same.symm)), fun closureId row _ => ?_⟩, same_at_refl id _⟩
    rw [(sets_apart sets).1]
  · obtain ⟨old, before, -⟩ := sets_origin sets stored
    exact ⟨old, before⟩

end

end AiWorld.Api
