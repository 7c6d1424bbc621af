import Mathlib.Algebra.Order.Field.Basic
import Mathlib.Algebra.Order.Field.Rat
import AiWorld.Api.ReaperSweep
import AiWorld.Api.Ruled

set_option autoImplicit false

namespace AiWorld.Api

open AiWorld.Concurrency AiWorld.Database

variable {row : AgentRuntimeClosure}

structure HookLossRate where
  since : Nat
  untilTime : Nat
  lost : Nat
  total : Nat
  rate : ℚ
deriving DecidableEq

-- A closure of the tenant in `[since, until)`.
def inWindow (tenantId since untilTime : Nat) (closure : Nat × AgentRuntimeClosure) : Bool :=
  closure.2.tenantId = tenantId && since ≤ closure.2.closedAt && closure.2.closedAt < untilTime

def isLost (row : AgentRuntimeClosure) : Bool := row.closedBy = .reaper && row.lateCloseAt = none

def countTotal (tenantId since untilTime : Nat) (db : Db) : Nat := db.closures.countP (inWindow tenantId since untilTime)

def countLost (tenantId since untilTime : Nat) (db : Db) : Nat :=
  db.closures.countP (fun closure => inWindow tenantId since untilTime closure && isLost closure.2)

def lossRate (lost total : Nat) : ℚ := if total = 0 then 0 else lost / total

def computeHookLossRate (tenantId since : Nat) (given : Option Nat) : Route HookLossRate := do
  let untilTime ← givenOrNow given
  let total ← select (countTotal tenantId since untilTime)
  let lost ← select (countLost tenantId since untilTime)
  return ⟨since, untilTime, lost, total, lossRate lost total⟩

-- In seconds.
def defaultHookLossWindow : Nat := 7 * 24 * 60 * 60

def givenOrWeekAgo : Option Nat → Route Nat
  | some time => return time
  | none => do
      let time ← now
      return time - defaultHookLossWindow

def agentRuntimeHookLossRate (user : User) (since given : Option Nat) : Route HookLossRate := do
  let since ← givenOrWeekAgo since
  computeHookLossRate user.tenantId since given

-- A reader of the rate beside the system's own processes.
inductive AuditCall where
  | hookLossRate (user : User) (since given : Option Nat)
  | other (request : Request)
deriving DecidableEq

abbrev AuditResult := Except Failure (Option HookLossRate)

def audit : AuditCall → Proc apiSig AuditResult
  | .hookLossRate user since given => (some <$> getDbSession (agentRuntimeHookLossRate user since given)).run
  | .other request => ((fun _ => none) <$> route request).run

abbrev AuditSystem := Pool apiSig Sys AuditResult AuditCall

def auditStep (system : AuditSystem) (action : Label Choice AuditCall) : Option AuditSystem :=
  system.step machine audit (.error (.unexpected "crash")) action

def auditBoot (db : Db) (nextId : Nat) (queue : List Nat) : AuditSystem := ⟨(boot db nextId queue).shared, []⟩

-- The closures that the second count takes and that the first one could not see.
def newlyLost (tenantId since untilTime : Nat) (first second : Db) : Nat :=
  second.closures.countP (fun closure => inWindow tenantId since untilTime closure && isLost closure.2 &&
    (first.lookup (.closure closure.1)).isNone)

-- The closures that the first count takes and the second one does not.
def notLost (tenantId since untilTime : Nat) (first second : Db) : Nat :=
  first.closures.countP (fun closure => inWindow tenantId since untilTime closure &&
    !(second.lookup (.closure closure.1)).any isLost)

theorem closures_nodup (db : Db) : (db.closures.map Prod.fst).Nodup :=
  table_nodup _ (fun row : Nat × AgentRuntimeClosure => ⟨.closure row.1, row.2⟩)
    (by rintro ⟨key, stored⟩ ⟨id, row⟩; cases key <;> simp) (fun _ _ same => congrArg Key.closure same) db

section
variable (tenantId since untilTime : Nat) (first second : Db)

theorem closure_persists (grown : Extends first second) {id : Nat} (stored : first.lookup (.closure id) = some row) :
    ∃ found, second.lookup (.closure id) = some found ∧ found = { row with lateCloseAt := found.lateCloseAt } := by
  have moves : Persists (Pinned (.closure id)) _ _ := grown (.closure id)
  rw [stored] at moves
  exact persists_found moves

theorem in_window_persists (id : Nat) {found : AgentRuntimeClosure} (same : found = { row with lateCloseAt := found.lateCloseAt }) :
    inWindow tenantId since untilTime (id, found) = inWindow tenantId since untilTime (id, row) := by
  rw [same]
  rfl

-- A closure lost at the second count and there at the first one was counted by both.
theorem lost_in_both (grown : Extends first second) :
    first.closures.countP (fun closure => inWindow tenantId since untilTime closure &&
        (second.lookup (.closure closure.1)).any isLost) =
      second.closures.countP (fun closure => inWindow tenantId since untilTime closure && isLost closure.2 &&
        (first.lookup (.closure closure.1)).isSome) := by
  rw [List.countP_eq_length_filter, List.countP_eq_length_filter, ← List.length_map (f := Prod.fst), ← List.length_map (f := Prod.fst)]
  refine List.Perm.length_eq ((List.perm_ext_iff_of_nodup ((closures_nodup first).sublist (List.filter_sublist.map _))
    ((closures_nodup second).sublist (List.filter_sublist.map _))).mpr (fun key => ?_))
  simp only [List.mem_map, List.mem_filter, Bool.and_eq_true]
  constructor
  · rintro ⟨⟨id, row⟩, ⟨member, inside, lost⟩, rfl⟩
    have stored := (mem_closures first _).mp member
    obtain ⟨found, present, same⟩ := closure_persists first second grown stored
    rw [present] at lost
    exact ⟨(id, found), ⟨(mem_closures second _).mpr present, ⟨(in_window_persists _ _ _ id same).trans inside, lost⟩,
      by simp [stored]⟩, rfl⟩
  · rintro ⟨⟨id, found⟩, ⟨member, ⟨inside, lost⟩, known⟩, rfl⟩
    have present := (mem_closures second _).mp member
    obtain ⟨row, stored⟩ := Option.isSome_iff_exists.mp known
    obtain ⟨again, there, same⟩ := closure_persists first second grown stored
    cases present.symm.trans there
    exact ⟨(id, row), ⟨(mem_closures first _).mpr stored, (in_window_persists _ _ _ id same).symm.trans inside,
      by simp [present, lost]⟩, rfl⟩

theorem count_split {α : Type} (rows : List α) (p q : α → Bool) :
    rows.countP p = rows.countP (fun row => p row && q row) + rows.countP (fun row => p row && !q row) := by
  rw [List.countP_eq_countP_filter_add rows p q, List.countP_filter, List.countP_filter]

theorem lost_le_total_iff (grown : Extends first second) :
    countLost tenantId since untilTime second ≤ countTotal tenantId since untilTime first ↔
      newlyLost tenantId since untilTime first second ≤ notLost tenantId since untilTime first second := by
  have both := lost_in_both tenantId since untilTime first second grown
  have total := count_split first.closures (inWindow tenantId since untilTime)
    (fun closure => (second.lookup (.closure closure.1)).any isLost)
  have lost := count_split second.closures (fun closure => inWindow tenantId since untilTime closure && isLost closure.2)
    (fun closure => (first.lookup (.closure closure.1)).isSome)
  simp only [Option.not_isSome] at lost
  unfold countLost countTotal newlyLost notLost
  omega

end

theorem loss_rate_bounds (lost total : Nat) (within : lost ≤ total) : 0 ≤ lossRate lost total ∧ lossRate lost total ≤ 1 := by
  unfold lossRate
  split
  · exact ⟨le_refl 0, zero_le_one⟩
  · rename_i some
    have positive : (0 : ℚ) < total := Nat.cast_pos.mpr (Nat.pos_of_ne_zero some)
    exact ⟨div_nonneg (Nat.cast_nonneg lost) positive.le, (div_le_one positive).mpr (Nat.cast_le.mpr within)⟩

-- What the reader has left to do, from each of its statements on.
def replies (loss : HookLossRate) : Proc apiSig AuditResult :=
  .act (S := apiSig) (.db .commit) (fun _ => .ret (.ok (some loss)))

def countsLost (tenantId since untilTime total : Nat) : Proc apiSig AuditResult :=
  .act (S := apiSig) (.db .select) (fun (db : Db) =>
    replies ⟨since, untilTime, countLost tenantId since untilTime db, total, lossRate (countLost tenantId since untilTime db) total⟩)

def countsTotal (tenantId since untilTime : Nat) : Proc apiSig AuditResult :=
  .act (S := apiSig) (.db .select) (fun (db : Db) =>
    countsLost tenantId since untilTime (countTotal tenantId since untilTime db))

def readsClock : Option Nat → Option Nat → Proc apiSig (Nat × Nat)
  | some since, some untilTime => .ret (since, untilTime)
  | some since, none => .act (S := apiSig) .now (fun (time : Nat) => .ret (since, time))
  | none, some untilTime => .act (S := apiSig) .now (fun (time : Nat) => .ret (time - defaultHookLossWindow, untilTime))
  | none, none => .act (S := apiSig) .now (fun (time : Nat) => .act (S := apiSig) .now (fun (later : Nat) =>
      .ret (time - defaultHookLossWindow, later)))

theorem audit_reads (user : User) (since given : Option Nat) :
    audit (.hookLossRate user since given) =
      readsClock since given >>= fun window => countsTotal user.tenantId window.1 window.2 := by
  cases since <;> cases given <;> rfl

def auditRegime : Regime AuditCall where
  rule := pinRule
  trans := fun _ => pin_moves_trans
  guard := fun _ _ _ _ => True
  mayCrash := anyCrash
  extra := fun _ => True
  promise := fun s t => Extends s.db t.db
  also := fun _ _ _ => True
  also_refl := fun _ _ => trivial
  also_trans := fun _ _ _ _ _ _ _ => trivial
  unbegun := fun _ _ => True
  stays_unbegun := fun _ _ _ _ _ => trivial
  crashed := fun _ s _ _ _ => ⟨trivial, extends_refl s.db, fun _ _ => trivial⟩

def auditing : Discipline machine AuditCall := auditRegime.discipline

section
variable {pid : Nat} {call : AuditCall}

theorem auditing_guarantees (stmt : Stmt) {choice : Choice} (s t : Sys) (answer : Ans stmt) (inv : auditing.inv s)
    (pins : pinsColumns stmt) (executed : exec pid stmt choice s = some (answer, t)) : auditing.guarantee pid s t := by
  have respects : ∀ query, stmt = .db query → Respects pinRule schema pid query s.server := fun query issued => by
    subst issued
    exact pins_respects inv.1.2 pins
  obtain ⟨-, moved, -⟩ := exec_related inv.1.1 inv.1.2 respects executed
  exact Regime.guarantees stmt choice s t answer inv.1 respects ⟨trivial, moved, fun _ _ => trivial⟩ executed

theorem audit_clean : Stable auditing.toContract pid (Clean pid) :=
  fun _ _ clean moved _ => moved.1.undisturbed.staged.trans clean

-- A SELECT of a transaction that has written nothing reads what is committed.
theorem audit_select (s : Sys) (clean : Clean pid s) :
    Safe auditing.toContract pid call (fun (db : Db) t => db = t.db ∧ Clean pid t) (Proc.ask (S := apiSig) (.db .select)) s := by
  intro t moved inv _ choice answer u executed
  have still := audit_clean s t clean moved inv
  have kept := auditing_guarantees (.db .select) t u answer inv trivial executed
  obtain ⟨rfl, rfl⟩ := exec_select executed
  exact ⟨kept, clean_view still, still⟩

theorem audit_clock (since given : Option Nat) (s : Sys) (clean : Clean pid s) :
    Safe auditing.toContract pid call (fun _ => Clean pid) (readsClock since given) s := by
  have issues : (readsClock since given).Issues (fun stmt : Stmt => stmt = .now) (fun _ => True) := by
    cases since with
    | some since =>
        cases given with
        | some untilTime => trivial
        | none => exact ⟨rfl, fun _ _ => trivial⟩
    | none =>
        cases given with
        | some untilTime => exact ⟨rfl, fun _ _ => trivial⟩
        | none => exact ⟨rfl, fun _ _ => ⟨rfl, fun _ _ => trivial⟩⟩
  refine safe_weaken (fun _ _ holds => holds.2) _ s (triple_issues audit_clean
    (fun (stmt : Stmt) before choice answer after isNow holds inv _ executed => ?_) issues s clean)
  subst isNow
  refine ⟨auditing_guarantees .now before after answer inv trivial executed, ?_⟩
  obtain ⟨-, rfl⟩ := Prod.mk.inj (Option.some.inj executed)
  exact holds

variable {s : Sys}

theorem audit_replies {loss : HookLossRate} :
    Safe auditing.toContract pid call (fun result _ => result = .ok (some loss)) (replies loss) s :=
  fun t _ inv _ _ answer u executed => ⟨auditing_guarantees (.db .commit) t u answer inv trivial executed, rfl⟩

theorem audit_starts (clean : Clean pid s) : Safe auditing.toContract pid call (fun _ _ => True) (audit call) s := by
  cases call with
  | hookLossRate user since given =>
      rw [audit_reads]
      refine safe_bind _ s (audit_clock since given s clean) (fun window t reading => ?_)
      refine safe_bind _ t (audit_select t reading) (fun _ u counted => ?_)
      refine safe_bind _ u (audit_select u counted.2) (fun _ v _ => ?_)
      exact safe_weaken (fun _ _ _ => trivial) _ v (audit_replies)
  | other request =>
      have pins : ((fun _ => none : Reply → Option HookLossRate) <$> route request).run.Issues pinsColumns (Returned (fun _ => True)) :=
        issues_map (issues_weaken (fun _ fine => fine.2.1) (route_writes))
      exact safe_weaken (fun _ _ _ => trivial) _ s (triple_issues (fun _ _ _ _ _ => trivial)
        (fun (stmt : Stmt) before choice answer after pinned _ inv _ executed =>
          ⟨auditing_guarantees stmt before after answer inv pinned executed, trivial⟩) pins s trivial)

end

abbrev AuditSound (system : AuditSystem) : Prop := Sound auditing (fun _ _ _ _ => True) system

abbrev Unhindered : AuditSystem → Label Choice AuditCall → Prop :=
  Pool.Meets (fun _ => True) auditing.guard auditing.mayCrash

theorem unhindered (system : AuditSystem) (action : Label Choice AuditCall) : Unhindered system action :=
  Pool.meets_always (fun _ => trivial) (fun _ _ _ _ => trivial) (fun _ _ => trivial) system action

variable {s t : AuditSystem} {actions : List (Label Choice AuditCall)}

theorem audit_step_sound {action : Label Choice AuditCall} (sound : AuditSound s) (stepped : auditStep s action = some t) :
    AuditSound t ∧ Extends s.shared.db t.shared.db := by
  obtain ⟨kept, promised⟩ := pool_step_sound (D := auditing) (fun _ _ _ _ _ _ _ _ => trivial)
    (fun pid call s _ _ idle => audit_starts idle.1) (fun _ _ _ _ _ => trivial) s t action sound (unhindered s action) stepped
  refine ⟨kept, ?_⟩
  cases action with
  | arrive call =>
      have same : t.shared = s.shared := promised
      exact same ▸ extends_refl _
  | step pid choice => exact promised.2.1
  | crash pid => exact promised.2.1

theorem audit_runs_extend (run : Runs auditStep Unhindered s actions t) (sound : AuditSound s) :
    Extends s.shared.db t.shared.db :=
  runs_relates AuditSound (fun s t => Extends s.shared.db t.shared.db) (fun s => extends_refl s.shared.db)
    (fun _ t _ => extends_trans t.shared.db)
    (fun _ _ _ holds _ stepped => audit_step_sound holds stepped) run sound

theorem audit_runs_sound (run : Runs auditStep Unhindered s actions t) (sound : AuditSound s) : AuditSound t :=
  runs_invariant AuditSound (fun _ _ _ holds _ stepped => (audit_step_sound holds stepped).1) run sound

theorem audit_boot_sound (db : Db) (nextId : Nat) (queue : List Nat) : AuditSound (auditBoot db nextId queue) :=
  sound_start _ ⟨kept_boot pinRule db nextId queue, trivial⟩ (fun _ => ⟨rfl, trivial⟩)

-- A reader that has returned in the end has gone through each of its statements.
theorem audit_passes {α : Type} {pid : Nat} {call : AuditCall} {mine : α → Sys → Prop} (follow : α → Proc apiSig AuditResult)
    {reply : Option HookLossRate} (run : Runs auditStep Unhindered s actions t) (sound : AuditSound s) {first : Proc apiSig α}
    (entry : s.procs[pid]? = some (call, first >>= follow)) (safe : Safe auditing.toContract pid call mine first s.shared)
    (ended : t.procs[pid]? = some (call, .ret (.ok reply))) :
    ∃ front back between value, actions = front ++ back ∧ Runs auditStep Unhindered s front between ∧
      Runs auditStep Unhindered between back t ∧ between.procs[pid]? = some (call, follow value) ∧ mine value between.shared := by
  have alive : Label.crash pid ∉ actions := fun crashed => by
    obtain ⟨_, lost⟩ := runs_crashed run crashed
    cases lost.symm.trans ended
  have kept : ∀ (other : Nat) (_ : AuditCall) (_ : AuditResult), Stable auditing.toContract other (fun _ => True) :=
    fun _ _ _ _ _ _ _ _ => trivial
  exact runs_passes kept (fun pid call s _ _ idle => audit_starts idle.1) (fun _ _ _ _ _ => trivial) pid call mine follow
    (.ok reply) run sound first entry safe alive ended

-- Where the run was when the reader had taken its two counts, one after the other.
theorem hook_loss_counted (db : Db) (nextId : Nat) (queue : List Nat) (actions : List (Label Choice AuditCall)) (system : AuditSystem)
    (run : Runs auditStep Unhindered (auditBoot db nextId queue) actions system) (pid : Nat) (user : User) (since given : Option Nat)
    (loss : HookLossRate) (returned : system.procs[pid]? = some (.hookLossRate user since given, .ret (.ok (some loss)))) :
    ∃ front middle back first second, actions = front ++ (middle ++ back) ∧
      Runs auditStep Unhindered (auditBoot db nextId queue) front first ∧ Runs auditStep Unhindered first middle second ∧
      Runs auditStep Unhindered second back system ∧
      first.procs[pid]? = some (.hookLossRate user since given,
        countsLost user.tenantId loss.since loss.untilTime (countTotal user.tenantId loss.since loss.untilTime first.shared.db)) ∧
      second.procs[pid]? = some (.hookLossRate user since given, replies loss) ∧
      loss.total = countTotal user.tenantId loss.since loss.untilTime first.shared.db ∧
      loss.lost = countLost user.tenantId loss.since loss.untilTime second.shared.db ∧ loss.rate = lossRate loss.lost loss.total := by
  obtain ⟨waiting, started, before, rfl, arrival, last, -, after⟩ := runs_entered run pid _ _ (Nat.zero_le _) returned
  subst last
  have arrived : Runs auditStep Unhindered (auditBoot db nextId queue) (waiting ++ [.arrive (.hookLossRate user since given)])
      ⟨before.shared, before.procs ++ [(.hookLossRate user since given, audit (.hookLossRate user since given))]⟩ :=
    runs_append arrival (.cons _ _ _ _ _ (unhindered _ _) rfl (.nil _))
  have idle := (audit_runs_sound arrival (audit_boot_sound db nextId queue)).idle before.procs.length (Nat.le_refl _)
  have sound := audit_runs_sound arrived (audit_boot_sound db nextId queue)
  obtain ⟨clock, rest, opened, window, rfl, ticked, afterClock, entry, clean⟩ := audit_passes
    (fun window => countsTotal user.tenantId window.1 window.2) after sound (by simp [audit_reads])
    (audit_clock since given before.shared idle.1) returned
  have soundOpened := audit_runs_sound ticked sound
  obtain ⟨counting, rest, first, _, rfl, counted, afterTotal, entryFirst, rfl, cleanFirst⟩ := audit_passes _ afterClock
    soundOpened entry (audit_select opened.shared clean) returned
  have soundFirst := audit_runs_sound counted soundOpened
  obtain ⟨middle, back, second, _, rfl, between, afterLost, entrySecond, rfl, -⟩ := audit_passes _ afterTotal
    soundFirst entryFirst (audit_select first.shared cleanFirst) returned
  obtain ⟨_, _, final, result, -, -, toEnd, ending, rfl⟩ := audit_passes .ret afterLost
    (audit_runs_sound between soundFirst) (by rw [Proc.bind_ret_right]; exact entrySecond)
    (audit_replies) returned
  cases (runs_ret_stays toEnd ending).symm.trans returned
  exact ⟨_, middle, back, first, second, by simp, runs_append arrived (runs_append ticked counted), between, afterLost, entryFirst,
    entrySecond, rfl, rfl, rfl⟩

-- The rate of a reader is one exactly if the reaper's closures committed between its
-- two counts are no more than the closures that only the first count takes.
theorem hook_loss_rate_iff (db : Db) (nextId : Nat) (queue : List Nat) (actions : List (Label Choice AuditCall)) (system : AuditSystem)
    (run : Runs auditStep Anything (auditBoot db nextId queue) actions system) (pid : Nat) (user : User) (since given : Option Nat)
    (loss : HookLossRate) (returned : system.procs[pid]? = some (.hookLossRate user since given, .ret (.ok (some loss)))) :
    ∃ front middle back first second, actions = front ++ (middle ++ back) ∧
      Runs auditStep Anything (auditBoot db nextId queue) front first ∧ Runs auditStep Anything first middle second ∧
      Runs auditStep Anything second back system ∧
      first.procs[pid]? = some (.hookLossRate user since given,
        countsLost user.tenantId loss.since loss.untilTime (countTotal user.tenantId loss.since loss.untilTime first.shared.db)) ∧
      second.procs[pid]? = some (.hookLossRate user since given, replies loss) ∧
      (loss.lost ≤ loss.total ∧ 0 ≤ loss.rate ∧ loss.rate ≤ 1 ↔
        newlyLost user.tenantId loss.since loss.untilTime first.shared.db second.shared.db ≤
          notLost user.tenantId loss.since loss.untilTime first.shared.db second.shared.db) := by
  have met : Runs auditStep Unhindered (auditBoot db nextId queue) actions system := runs_weaken (fun s label _ => unhindered s label) run
  have free : ∀ {s t labels}, Runs auditStep Unhindered s labels t → Runs auditStep Anything s labels t :=
    runs_weaken (fun _ _ _ => trivial)
  obtain ⟨front, middle, back, first, second, split, before, between, after, entryFirst, entrySecond, total, lost, rate⟩ :=
    hook_loss_counted db nextId queue actions system met pid user since given loss returned
  have grown := audit_runs_extend between (audit_runs_sound before (audit_boot_sound db nextId queue))
  have bounded := lost_le_total_iff user.tenantId loss.since loss.untilTime first.shared.db second.shared.db grown
  rw [← total, ← lost] at bounded
  refine ⟨front, middle, back, first, second, split, free before, free between, free after, entryFirst, entrySecond, ?_⟩
  rw [← bounded, rate]
  exact ⟨fun holds => holds.1, fun within => ⟨within, loss_rate_bounds loss.lost loss.total within⟩⟩

namespace Sample

-- The silent twin has lost one subagent to the reaper before.
def reapedOnce : Db :=
  ((silent.insert (.task 6) ⟨3, 1, .failed, 0, "subagent", none⟩).insert (.session 13)
    { subagent with taskId := some 6, externalInstanceRef := some "b", endedAt := some 40, outcome := some .failed }).insert
    (.closure 12) (newClosure 1 13 (some 6) .reaper ⟨.failed, .reapedStale, none⟩ 40)

def readsRate : AuditCall := .hookLossRate ⟨1, 1⟩ (some 0) (some 100)

def at70 (pid count : Nat) : List (Label Choice AuditCall) := List.replicate count (.step pid { time := 70 })

def reaper (pid : Nat) : List (Label Choice AuditCall) := .arrive (.other (.reapSweep 10 200)) :: at70 pid 31

def answersRate (lost total : Nat) (system : AuditSystem) : Prop :=
  system.answer 0 = some (readsRate, some (.ok (some ⟨0, 100, lost, total, lossRate lost total⟩)))

instance (lost total : Nat) (system : AuditSystem) : Decidable (answersRate lost total system) := by
  unfold answersRate
  infer_instance

end Sample

-- The reaper commits before the reader's counts, and the rate is 1.
theorem hook_loss_rate_after_reaper :
    ∃ system, Runs auditStep Anything (auditBoot Sample.reapedOnce 100 [])
        (.arrive Sample.readsRate :: Sample.reaper 1 ++ Sample.at70 0 3) system ∧
      system.procs[0]? = some (Sample.readsRate, .ret (.ok (some ⟨0, 100, 2, 2, lossRate 2 2⟩))) ∧
      ∃ first second : AuditSystem,
        second.procs[0]? = some (Sample.readsRate, replies ⟨0, 100, 2, 2, lossRate 2 2⟩) ∧
        newlyLost 1 0 100 first.shared.db second.shared.db ≤ notLost 1 0 100 first.shared.db second.shared.db := by
  obtain ⟨system, run, shown⟩ := runs_exhibit auditStep (fun system => decide (Sample.answersRate 2 2 system))
    (auditBoot Sample.reapedOnce 100 []) (.arrive Sample.readsRate :: Sample.reaper 1 ++ Sample.at70 0 3) (by decide +kernel)
  have returned := Pool.ended_of_answer (of_decide_eq_true shown)
  obtain ⟨front, middle, back, first, second, -, -, -, -, -, entry, within⟩ :=
    hook_loss_rate_iff _ _ _ _ system run 0 ⟨1, 1⟩ (some 0) (some 100) _ returned
  exact ⟨system, run, returned, first, second, entry,
    within.mp ⟨Nat.le_refl 2, loss_rate_bounds 2 2 (Nat.le_refl 2)⟩⟩

-- The reaper commits between the two counts: two of one closure are lost.
theorem hook_loss_rate_above_one :
    ∃ system, Runs auditStep Anything (auditBoot Sample.reapedOnce 100 [])
        (.arrive Sample.readsRate :: Sample.at70 0 1 ++ Sample.reaper 1 ++ Sample.at70 0 2) system ∧
      system.procs[0]? = some (Sample.readsRate, .ret (.ok (some ⟨0, 100, 2, 1, 2⟩))) := by
  obtain ⟨system, run, shown⟩ := runs_exhibit auditStep (fun system => decide (Sample.answersRate 2 1 system))
    (auditBoot Sample.reapedOnce 100 []) (.arrive Sample.readsRate :: Sample.at70 0 1 ++ Sample.reaper 1 ++ Sample.at70 0 2)
    (by decide +kernel)
  have rate : lossRate 2 1 = 2 := by norm_num [lossRate]
  exact ⟨system, run, rate ▸ Pool.ended_of_answer (of_decide_eq_true shown)⟩

end AiWorld.Api
