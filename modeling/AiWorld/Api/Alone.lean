import AiWorld.Api.Growth
import AiWorld.Api.Indexes
import AiWorld.Concurrency.Completes

set_option autoImplicit false

namespace AiWorld.Api

open AiWorld.Concurrency AiWorld.Database

variable {key : Key} {missionId : Option Nat} {tenantId : Nat} {eventType : EventType} {reason : Option String}

-- Nobody else holds a lock, the transaction of `pid` sees `seen`, and `committed` is
-- what is committed.
structure Alone (pid : Nat) (seen committed : Db) (nextId : Nat) (s : Sys) : Prop where
  rows : ∀ key, s.server.rowLock key = none ∨ s.server.rowLock key = some pid
  keys : ∀ key, s.server.keyLock key = none ∨ s.server.keyLock key = some pid
  entries : ∀ entry, s.server.entryLock entry = none ∨ s.server.entryLock entry = some pid
  view : s.server.view pid = seen
  db : s.db = committed
  nextId : s.nextId = nextId

abbrev anyChoice (_ : Choice) : Prop := True

abbrev Solo {α : Type} (pid : Nat) (post : α → Sys → Prop) (raised : Failure → Sys → Prop) (program : Route α) (s : Sys) : Prop :=
  Finishes machine pid anyChoice post raised program s

section
variable {pid : Nat} {seen committed : Db} {nextId : Nat} {s : Sys} {raised : Failure → Sys → Prop}

theorem alone_locks (alone : Alone pid seen committed nextId s) (grab : Grab Key Index) (stream : List (Nat × Nat)) :
    Alone pid seen committed nextId { s with server := s.server.grabs pid grab, stream := stream } where
  rows := fun key => by
    by_cases asked : key ∈ grab.rows ∨ key ∈ grab.strong
    · exact .inr (by simp [Server.grabs, asked])
    · simpa [Server.grabs, asked] using alone.rows key
  keys := fun key => by
    by_cases asked : key ∈ grab.strong
    · exact .inr (by simp [Server.grabs, asked])
    · simpa [Server.grabs, asked] using alone.keys key
  entries := fun entry => by
    by_cases asked : entry ∈ grab.entries
    · exact .inr (by simp [Server.grabs, asked])
    · simpa [Server.grabs, asked] using alone.entries entry
  view := alone.view
  db := alone.db
  nextId := alone.nextId

theorem alone_grabs (alone : Alone pid seen committed nextId s) (grab : Grab Key Index) (write : Write Row)
    (stream : List (Nat × Nat)) :
    Alone pid (write.apply seen) committed nextId
      { s with server := (s.server.grabs pid grab).stages pid write, stream := stream } := by
  have locked := alone_locks alone grab stream
  refine ⟨locked.rows, locked.keys, locked.entries, ?_, locked.db, locked.nextId⟩
  have same := alone.view
  simpa using congrArg write.apply same

theorem exec_performs (choice : Choice) (query : Database.Stmt Row CloseCall) {answer : Database.Ans query}
    (t : Server Row Index CloseCall) (performed : perform schema pid query s.server = some (answer, t)) :
    exec pid (.db query) choice s =
      some (answer, { s with server := t, stream := s.stream ++ announced pid choice query }) := by
  simp only [exec, performed, Option.map_some]
  rfl

theorem alone_ask (query : Database.Stmt Row CloseCall) (answer : Database.Ans query) (t : Server Row Index CloseCall)
    (post : Database.Ans query → Sys → Prop) (performed : perform schema pid query s.server = some (answer, t))
    (holds : ∀ stream, post answer { s with server := t, stream := stream }) :
    Solo pid post raised (ask (.db query)) s :=
  finishes_ask (S := apiSig) (.db query) post s (fun choice _ =>
    ⟨answer, _, exec_performs choice query t performed, holds _⟩)

theorem alone_stream (alone : Alone pid seen committed nextId s) (stream : List (Nat × Nat)) :
    Alone pid seen committed nextId { s with stream := stream } :=
  ⟨alone.rows, alone.keys, alone.entries, alone.view, alone.db, alone.nextId⟩

theorem alone_select {α : Type} (query : Db → α) (alone : Alone pid seen committed nextId s) :
    Solo pid (fun answer t => answer = query seen ∧ Alone pid seen committed nextId t) raised
      (select query) s :=
  finishes_bind _ (alone_ask .select (s.server.view pid) s.server
    (fun answer t => answer = seen ∧ Alone pid seen committed nextId t) rfl
    (fun stream => ⟨alone.view, alone_stream alone stream⟩)) (fun answer t holds => by
      obtain ⟨rfl, still⟩ := holds
      exact finishes_pure _ t ⟨rfl, still⟩)

theorem alone_new_id (alone : Alone pid seen committed nextId s) :
    Solo pid (fun answer t => answer = nextId ∧ Alone pid seen committed (nextId + 1) t) raised newId s :=
  finishes_ask (S := apiSig) .newId _ s (fun _ _ => ⟨s.nextId, s.takesId pid, rfl, alone.nextId,
    ⟨alone.rows, alone.keys, alone.entries, alone.view, alone.db, congrArg (· + 1) alone.nextId⟩⟩)

theorem alone_update (key : Key) {loaded : Row key} (row : Row key) {columns : Row key → Row key}
    (alone : Alone pid seen committed nextId s) (found : seen.lookup key = some row) :
    Solo pid (fun _ t => Alone pid (seen.insert key (columns row)) committed nextId t) raised
      (update key loaded columns) s := by
  have present : (s.server.view pid).lookup key = some row := by rw [alone.view]; exact found
  have granted : s.server.grantable pid { rows := [(Write.change key columns : Write Row).key] } = true := by
    simpa [grantable_iff, Write.key] using alone.rows key
  have changed : (Write.change key columns).apply seen = seen.insert key (columns row) := by simp [Write.apply, found]
  refine alone_ask (.update key loaded columns) () _ (fun _ t => Alone pid (seen.insert key (columns row)) committed nextId t)
    (by simp only [perform, present, Server.writes, if_pos granted, Option.map_some]; rfl) (fun stream => ?_)
  exact changed ▸ alone_grabs alone _ (.change key columns) stream

variable {row : Row key} {taskId : Nat}

-- An INSERT that the schema accepts.
theorem alone_try_insert (alone : Alone pid seen committed nextId s) (accepted : schema.accepts key row seen = true) :
    Solo pid
      (fun inserted t => inserted = true ∧ Alone pid (seen.insert key row) committed nextId t) raised (tryInsert key row) s := by
  have unique : s.server.grantable pid
      { rows := key :: schema.rivals key row (s.server.view pid), entries := schema.indexed key row } = true := by
    rw [grantable_iff]
    exact ⟨fun other _ => alone.rows other, by simp, by simp, fun entry _ => alone.entries entry⟩
  have referenced : s.server.grantable pid { shared := schema.references key row } = true := by
    rw [grantable_iff]
    exact ⟨by simp, by simp, fun other _ => alone.keys other, by simp⟩
  have performed : s.server.inserts schema pid key row =
      some (true, (s.server.grabs pid (schema.claims key row)).stages pid (.put key row)) := by
    have accepts : schema.accepts key row (s.server.view pid) = true := by rw [alone.view]; exact accepted
    simp only [Server.inserts, unique, accepts, referenced, if_true]
  exact alone_ask (.insert key row) true _ (fun inserted t =>
    inserted = true ∧ Alone pid (seen.insert key row) committed nextId t) performed (fun stream =>
      ⟨rfl, alone_grabs alone _ (.put key row) stream⟩)

theorem alone_insert (alone : Alone pid seen committed nextId s) (accepted : schema.accepts key row seen = true) :
    Solo pid (fun _ t => Alone pid (seen.insert key row) committed nextId t) raised (insert key row) s := by
  refine finishes_bind _ (alone_try_insert alone accepted) (fun inserted t holds => ?_)
  obtain ⟨rfl, still⟩ := holds
  exact finishes_pure _ t still

theorem alone_refused (alone : Alone pid seen committed nextId s) (refused : schema.accepts key row seen = false) :
    Solo pid (fun _ _ => False)
      (fun failure t => failure = .integrity ∧ Alone pid seen committed nextId t) (insert key row) s := by
  have unique : s.server.grantable pid
      { rows := key :: schema.rivals key row (s.server.view pid), entries := schema.indexed key row } = true := by
    rw [grantable_iff]
    exact ⟨fun other _ => alone.rows other, by simp, by simp, fun entry _ => alone.entries entry⟩
  have performed : s.server.inserts schema pid key row = some (false, s.server) := by
    have refuses : schema.accepts key row (s.server.view pid) = false := by rw [alone.view]; exact refused
    simp only [Server.inserts, unique, refuses, if_true, Bool.false_eq_true, if_false]
  refine finishes_bind _ (alone_ask (.insert key row) false _
    (fun inserted t => inserted = false ∧ Alone pid seen committed nextId t) performed
    (fun stream => ⟨rfl, alone_stream alone stream⟩)) (fun inserted t holds => ?_)
  obtain ⟨rfl, still⟩ := holds
  exact finishes_throw ⟨rfl, still⟩

theorem alone_update_where {fits : Row key → Bool} {columns : Row key → Row key} (alone : Alone pid seen committed nextId s)
    (found : seen.lookup key = some row) (fit : fits row = true) :
    Solo pid
      (fun won t => won = true ∧ Alone pid (seen.insert key (columns row)) committed nextId t) raised
      (updateWhere key fits columns) s := by
  have present : ((s.server.view pid).lookup key).filter fits = some row := by
    rw [alone.view, found]
    simp [Option.filter, fit]
  have granted : s.server.grantable pid { rows := [(Write.change key columns : Write Row).key] } = true := by
    simpa [grantable_iff, Write.key] using alone.rows key
  have changed : (Write.change key columns).apply seen = seen.insert key (columns row) := by simp [Write.apply, found]
  refine alone_ask (.updateWhere key fits columns) true _
    (fun won t => won = true ∧ Alone pid (seen.insert key (columns row)) committed nextId t)
    (by simp only [perform, present, Server.writes, if_pos granted, Option.map_some]; rfl) (fun stream => ⟨rfl, ?_⟩)
  exact changed ▸ alone_grabs alone _ (.change key columns) stream

theorem alone_announce {taskId agentId : Option Nat} (alone : Alone pid seen committed nextId s)
    (fresh : seen.event nextId = none) (mission : ∀ id, missionId = some id → (seen.mission id).isSome = true)
    (task : ∀ id, taskId = some id → (seen.task id).isSome = true)
    (agent : ∀ id, agentId = some id → (seen.agent id).isSome = true) :
    Solo pid
      (fun _ t => Alone pid (seen.insert (.event nextId) ⟨tenantId, eventType, missionId, taskId, agentId, reason⟩) committed
        (nextId + 1) t) raised (publishReason reason eventType tenantId missionId taskId agentId) s := by
  refine finishes_bind _ (alone_new_id alone) (fun id t drawn => ?_)
  obtain ⟨rfl, still⟩ := drawn
  exact alone_insert still (event_accepted fresh mission task agent)

theorem alone_publish {agentId : Nat} (alone : Alone pid seen committed nextId s) (fresh : seen.event nextId = none)
    (mission : ∀ id, missionId = some id → (seen.mission id).isSome = true) (task : (seen.task taskId).isSome = true)
    (agent : (seen.agent agentId).isSome = true) :
    Solo pid
      (fun _ t => Alone pid (seen.insert (.event nextId)
        ⟨tenantId, eventType, missionId, some taskId, some agentId, reason⟩) committed (nextId + 1) t) raised
      (publishReason reason eventType tenantId missionId (some taskId) (some agentId)) s := by
  refine alone_announce alone fresh mission ?_ ?_
  · rintro _ ⟨⟩
    exact task
  · rintro _ ⟨⟩
    exact agent

theorem released_own {holder : Option Nat} (mine : holder = none ∨ holder = some pid) : released pid holder = none := by
  rcases mine with rfl | rfl <;> simp [released]

theorem alone_commit (alone : Alone pid seen committed nextId s) :
    Solo pid (fun _ t => Alone pid seen seen nextId t) raised commit s := by
  refine alone_ask .commit () (s.server.commits pid) _ rfl (fun stream => ?_)
  exact ⟨fun key => .inl (released_own (alone.rows key)), fun key => .inl (released_own (alone.keys key)),
    fun entry => .inl (released_own (alone.entries entry)), by simpa using alone.view, alone.view, alone.nextId⟩

theorem alone_rollback (alone : Alone pid seen committed nextId s) :
    Solo pid (fun _ t => Alone pid committed committed nextId t) raised rollback s := by
  have kept : s.server.db = committed := alone.db
  refine alone_ask .rollback () (s.server.rollsBack pid) _ rfl (fun stream => ?_)
  exact ⟨fun key => .inl (released_own (alone.rows key)), fun key => .inl (released_own (alone.keys key)),
    fun entry => .inl (released_own (alone.entries entry)), by simpa using kept, kept, alone.nextId⟩

theorem alone_report (missionId : Nat) (alone : Alone pid seen committed nextId s) :
    Solo pid (fun _ t => Alone pid seen committed nextId t) raised (reportStarted missionId taskId) s :=
  finishes_ask (S := apiSig) (.reportStarted missionId taskId) _ s (fun _ _ => ⟨(), s.reports pid missionId taskId, rfl,
    ⟨alone.rows, alone.keys, alone.entries, alone.view, alone.db, alone.nextId⟩⟩)

theorem alone_now (alone : Alone pid seen committed nextId s) :
    Solo pid (fun _ t => Alone pid seen committed nextId t) raised now s :=
  finishes_ask (S := apiSig) .now _ s (fun choice _ => ⟨choice.time, s, rfl, alone⟩)

theorem alone_written (alone : Alone pid seen committed nextId s) :
    Solo pid (fun _ t => Alone pid seen committed nextId t) raised written s :=
  alone_ask .written _ s.server _ rfl (fun stream => alone_stream alone stream)

theorem alone_note {call : CloseCall} (alone : Alone pid seen committed nextId s) :
    Solo pid (fun _ t => Alone pid seen committed nextId t) raised (note call) s :=
  alone_ask (.note call) () (s.server.notes pid call) _ rfl (fun _ =>
    ⟨alone.rows, alone.keys, alone.entries, alone.view, alone.db, alone.nextId⟩)

-- Nobody else holds a share of a row either.
def OwnShares (pid : Nat) (s : Sys) : Prop := ∀ key, ∀ holder ∈ s.server.shares key, holder = pid

theorem exec_own_shares (stmt : Stmt) (choice : Choice) (s : Sys) (answer : Ans stmt) {t : Sys} (own : OwnShares pid s)
    (executed : exec pid stmt choice s = some (answer, t)) : OwnShares pid t := by
  rcases exec_moves executed with ⟨query, rfl, move⟩ | same
  · intro key holder sharing
    have grabbed (grab : Grab Key Index) (member : holder ∈ (s.server.grabs pid grab).shares key) : holder = pid := by
      by_cases asked : key ∈ grab.shared
      · have origin : holder = pid ∨ holder ∈ s.server.shares key := by simpa [Server.grabs, asked] using member
        exact origin.elim id (own key holder)
      · exact own key holder (by simpa [Server.grabs, asked] using member)
    generalize t.server = after at move sharing
    cases move with
    | none => exact own key holder sharing
    | grab grab granted => exact grabbed grab sharing
    | write grab write granted covered issued applies shared entries => exact grabbed grab sharing
    | note note issued => exact own key holder sharing
    | commit issued => exact own key holder (List.mem_filter.mp sharing).1
    | rollback issued => exact own key holder (List.mem_filter.mp sharing).1
  · intro key holder sharing
    rw [same] at sharing
    exact own key holder sharing

theorem alone_lockable (alone : Alone pid seen committed nextId s) (own : OwnShares pid s) (key : Key) :
    s.server.lockable pid key = true := by
  simp only [Server.lockable, free, Bool.and_eq_true, decide_eq_true_eq, List.all_eq_true]
  exact ⟨alone.rows key, own key⟩

theorem alone_select_for_update {wanted : Row key → Bool} (alone : Alone pid seen committed nextId s) (own : OwnShares pid s)
    (stored : seen.lookup key = some row) (fits : wanted row = true) :
    Solo pid (fun answer t => answer = some row ∧ Alone pid seen committed nextId t) raised
      (selectForUpdate key wanted none) s := by
  have found : ((s.server.view pid).lookup key).filter wanted = some row := by
    rw [alone.view, stored]
    simp [Option.filter, fits]
  have granted : s.server.grantable pid { strong := [key] } = true := by
    simpa [Server.grantable] using alone_lockable alone own key
  exact alone_ask (.selectForUpdate key wanted none) (some row) _
    (fun answer t => answer = some row ∧ Alone pid seen committed nextId t)
    (by simp only [perform, found, if_pos granted]; rfl) (fun stream => ⟨rfl, alone_locks alone _ stream⟩)

theorem alone_skip_locked {wanted : Db → List Key} {limit : Nat} (alone : Alone pid seen committed nextId s)
    (own : OwnShares pid s) (enough : (wanted seen).length ≤ limit) :
    Solo pid
      (fun answer t => answer = (wanted seen).filterMap (fun key => (seen.lookup key).map (Sigma.mk key)) ∧
        Alone pid seen committed nextId t) raised (selectSkipLocked wanted limit) s := by
  have all : s.server.skips pid wanted limit = wanted seen := by
    unfold Server.skips
    rw [alone.view, List.filter_eq_self.mpr (fun key _ => alone_lockable alone own key), List.take_of_length_le enough]
  refine alone_ask (.selectSkipLocked wanted limit) _ _ (fun answer t =>
    answer = (wanted seen).filterMap (fun key => (seen.lookup key).map (Sigma.mk key)) ∧ Alone pid seen committed nextId t) rfl
    (fun stream => ⟨?_, alone_locks alone _ stream⟩)
  rw [all, alone.view]

end

end AiWorld.Api
