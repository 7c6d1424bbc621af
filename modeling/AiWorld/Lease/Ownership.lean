import AiWorld.Lease.TaskLease

set_option autoImplicit false

namespace AiWorld.Lease

open AiWorld.Concurrency AiWorld.Redis

variable {s : Redis} {command : Command String} {lease : TaskLease}

-- What a lease is for: the key of a task is free or held under one token, only the
-- lease with that token extends or gives it up, and Redis may drop it.
def holderStep (key : String) : Option String → LeaseChange → Option (Option String)
  | none, .set _ lease token => if token = lease.token ∧ key = lease.key then some (some token) else none
  | some held, .ran _ lease command value =>
      if value = held ∧ held = lease.token ∧ key = lease.key then some (if command.removes then none else some held) else none
  | some held, .expired value => if value = held then some none else none
  | _, _ => none

variable {before after : Option String}

theorem holder_ran {key : String} {pid : Nat} {lease : TaskLease} {command : Command String} {held : String}
    (stepped : holderStep key before (.ran pid lease command held) = some after) :
    before = some held ∧ held = lease.token ∧ key = lease.key := by
  cases before with
  | none => cases stepped
  | some value =>
      by_cases ours : held = value ∧ value = lease.token ∧ key = lease.key
      · exact ⟨congrArg some ours.1.symm, ours.1.trans ours.2.1, ours.2.2⟩
      · simp [holderStep, ours] at stepped

theorem holder_set {key : String} {pid : Nat} {lease : TaskLease} {token : String}
    (stepped : holderStep key before (.set pid lease token) = some after) : before = none ∧ after = some token := by
  cases before with
  | some value => cases stepped
  | none =>
      by_cases ours : token = lease.token ∧ key = lease.key
      · exact ⟨rfl, by simpa [holderStep, ours] using stepped.symm⟩
      · simp [holderStep, ours] at stepped

-- The key was dropped by Redis or deleted by the lease that held it.
def GivenUp : LeaseChange → Prop
  | .expired _ => True
  | .ran _ lease command held => command.removes = true ∧ held = lease.token
  | .set _ _ _ => False

theorem holder_given_up {key held : String} {change : LeaseChange} (stepped : holderStep key (some held) change = some none) :
    GivenUp change := by
  cases change with
  | set pid lease token => cases stepped
  | expired value => trivial
  | ran pid lease command value =>
      obtain ⟨-, ours, here⟩ := holder_ran stepped
      cases removes : command.removes with
      | true => exact ⟨removes, ours⟩
      | false =>
          by_cases all : value = held ∧ held = lease.token ∧ key = lease.key
          · simp [holderStep, all, removes] at stepped
          · simp [holderStep, all] at stepped

-- A held key that ends free has been given up on the way.
theorem held_until_given_up {key : String} {changes : List LeaseChange}
    (run : Runs (holderStep key) Anything before changes after) (held : before ≠ none) (free : after = none) :
    ∃ change ∈ changes, GivenUp change := by
  induction run with
  | nil => exact absurd free held
  | cons s t u change rest _ stepped tail ih =>
      cases t with
      | some value =>
          obtain ⟨later, member, given⟩ := ih nofun free
          exact ⟨later, List.mem_cons_of_mem _ member, given⟩
      | none =>
          obtain ⟨value, rfl⟩ := Option.ne_none_iff_exists'.mp held
          exact ⟨change, List.mem_cons_self, holder_given_up stepped⟩

def changesOf (key : String) (log : List (String × LeaseChange)) : List LeaseChange :=
  log.filterMap (fun entry => if entry.1 = key then some entry.2 else none)

theorem mem_changes_of {key : String} {change : LeaseChange} {log : List (String × LeaseChange)} :
    change ∈ changesOf key log ↔ (key, change) ∈ log := by
  simp only [changesOf, List.mem_filterMap, Option.ite_none_right_eq_some, Option.some.injEq]
  constructor
  · rintro ⟨entry, member, rfl, rfl⟩
    exact member
  · exact fun member => ⟨_, member, rfl, rfl⟩

-- The changes of each key are a run of its lease.
def Traced (start : String → Option (Entry String)) (s : Redis) : Prop :=
  ∀ key, Runs (holderStep key) Anything ((start key).map Entry.value) (changesOf key s.log) (s.valueAt key)

section
variable {start : String → Option (Entry String)}
variable {key : String}

theorem traced_writes {entry : Option (Entry String)} {change : LeaseChange} (traced : Traced start s)
    (follows : holderStep key (s.valueAt key) change = some (entry.map Entry.value)) :
    Traced start (s.writes key entry change) := by
  intro other
  by_cases same : other = key
  · subst other
    have last : Runs (holderStep key) Anything (s.valueAt key) [change] (entry.map Entry.value) :=
      .cons _ _ _ change [] trivial follows (.nil _)
    simpa [Server.writes, Server.valueAt, changesOf] using runs_append (traced key) last
  · simpa [Server.writes, Server.valueAt, changesOf, same, Ne.symm same] using traced other

theorem traced_forgets (pid : Nat) (traced : Traced start s) : Traced start (s.forgets pid) := traced

variable (start) in
-- Clients interfere by what `Undisturbed` lets through, whatever they ask for.
def leasing : Discipline (machine String String TaskLease) Request :=
  .ofRely _ (fun _ _ _ _ => True) (fun _ _ => True) (Traced start) (fun _ _ => True) Undisturbed (fun _ _ => True)
    undisturbed_refl undisturbed_trans
    (fun pid s traced _ => ⟨traced, trivial, fun other different => ⟨forgets_undisturbed pid other different s, id⟩⟩)

variable {pid : Nat} {request : Request}

theorem leasing_ask {pre : Redis → Prop} {raised : Failure → Redis → Prop} {stmt : LeaseStmt} {post : Ans stmt → Redis → Prop}
    (stable : Stable (leasing start).toContract pid pre)
    (executes : ∀ s, pre s → Traced start s → Traced start (exec pid stmt s).2 ∧ post (exec pid stmt s).1 (exec pid stmt s).2) :
    Raises (leasing start).toContract pid request pre (ask stmt) post raised := by
  refine raises_ask (S := leaseSig) stmt post stable (fun s choice answer t before traced _ executed => ?_)
  have same : exec pid stmt s = (answer, t) := Option.some.inj executed
  obtain ⟨kept, after⟩ := executes s before traced
  have undisturbed := fun other different => exec_undisturbed pid other different s stmt
  rw [same] at kept after undisturbed
  exact ⟨⟨kept, trivial, fun other different => ⟨undisturbed other different, id⟩⟩, after⟩

theorem anything_stable : Stable (leasing start).toContract pid (fun _ => True) := fun _ _ _ _ _ => trivial

theorem logged_stable {entry : String × LeaseChange} : Stable (leasing start).toContract pid (fun s => entry ∈ s.log) :=
  fun _ _ member moved _ => moved.log.subset member

theorem compared_stable {value : Option String} : Stable (leasing start).toContract pid (Compared pid key value) :=
  fun _ _ compared moved _ => compared_undisturbed compared moved

-- On record: the lease was set by this call, or the call's command ran while the key
-- held the lease's own token.
def WasSet (pid : Nat) (lease : TaskLease) (s : Redis) : Prop := (lease.key, .set pid lease lease.token) ∈ s.log

def Ran (pid : Nat) (lease : TaskLease) (command : Command String) (s : Redis) : Prop :=
  (lease.key, .ran pid lease command lease.token) ∈ s.log

theorem acquire_leases :
    Raises (leasing start).toContract pid request (fun _ => True) lease.acquire
      (fun acquired s => acquired = true → WasSet pid lease s) (fun _ _ => True) := by
  refine raises_bind (fun (reply : SetReply) s => reply = .ok → WasSet pid lease s)
    (leasing_ask anything_stable (fun s _ traced => ?_)) (fun reply => ?_)
  · change Traced start (s.setsNx pid lease lease.key lease.token lease.ttlMs).2 ∧
      ((s.setsNx pid lease lease.key lease.token lease.ttlMs).1 = .ok →
        WasSet pid lease (s.setsNx pid lease lease.key lease.token lease.ttlMs).2)
    unfold Server.setsNx
    split
    next => exact ⟨traced, by simp⟩
    next =>
      split
      next free =>
        exact ⟨traced_writes traced (by simp [Server.valueAt, free, holderStep]), by simp [WasSet, Server.writes]⟩
      next => exact ⟨traced, by simp⟩
  · cases reply with
    | ok => exact raises_pure _ (fun s holds _ => holds rfl)
    | null => exact raises_pure _ (fun s _ => by simp)
    | invalidExpire => exact raises_throw _ (fun s _ => trivial)

-- At EXEC the client is dirty, or the key still holds its token and the command takes
-- effect.
theorem executes_compared (here : command.key = lease.key) (compared : Compared pid lease.key (some lease.token) s)
    (traced : Traced start s) :
    Traced start (s.executes pid lease [command]).2 ∧
      ((s.executes pid lease [command]).1 ≠ none → Ran pid lease command (s.executes pid lease [command]).2) := by
  cases dirty : s.dirty pid with
  | true => simpa [Server.executes, dirty] using traced_forgets pid traced
  | false =>
      obtain ⟨entry, stored, holds⟩ := Option.map_eq_some_iff.mp (compared.2 dirty)
      have ran : s.runs pid lease command =
          (true, s.writes lease.key (command.leaves entry) (.ran pid lease command lease.token)) := by
        simp [Server.runs, here, stored, holds]
      have follows : holderStep lease.key (s.valueAt lease.key) (.ran pid lease command lease.token) =
          some ((command.leaves entry).map Entry.value) := by
        rw [compared.2 dirty]
        cases command with
        | del key => simp [holderStep, Command.removes, Command.leaves]
        | pexpire key ttlMs =>
            by_cases ended : ttlMs ≤ 0
            · simp [holderStep, Command.removes, Command.leaves, ended]
            · simp [holderStep, Command.removes, Command.leaves, ended, holds]
      have kept := traced_writes traced follows
      constructor
      · simpa [Server.executes, dirty, Server.runsAll, ran] using traced_forgets pid kept
      · simp [Ran, Server.executes, dirty, Server.runsAll, ran, Server.forgets, Server.writes]

theorem if_ours_leases (here : command.key = lease.key) :
    Raises (leasing start).toContract pid request (fun _ => True) (lease.ifOurs command)
      (fun ours s => ours = true → Ran pid lease command s) (fun _ _ => True) := by
  refine raises_catch (fun _ _ => True) ?_ (fun failure => ?_)
  · refine raises_bind (fun _ s => lease.key ∈ s.watched pid)
      (leasing_ask anything_stable (fun s _ traced => ⟨traced, by simp [exec, Server.watches]⟩)) (fun _ => ?_)
    refine raises_bind (fun current => Compared pid lease.key current)
      (leasing_ask (fun s t member moved _ => moved.watched ▸ member) (fun s member traced => ⟨traced, member, fun _ => rfl⟩))
      (fun current => ?_)
    by_cases ours : current = some lease.token
    · subst ours
      simp only [if_true]
      refine raises_bind (fun _ => Ran pid lease command) ?_ (fun _ => raises_pure _ (fun s ran _ => ran))
      refine raises_bind (fun (results : Option (List Bool)) s => results ≠ none → Ran pid lease command s)
        (leasing_ask (compared_stable) (fun s compared traced => executes_compared here compared traced))
        (fun results => ?_)
      cases results with
      | some values => exact raises_pure _ (fun s holds => holds (by simp))
      | none => exact raises_throw _ (fun s _ => trivial)
    · simp only [ours, if_false]
      exact raises_bind (fun _ _ => True) (leasing_ask (compared_stable) (fun s _ traced => ⟨traced, trivial⟩))
        (fun _ => raises_pure _ (fun s _ => by simp))
  · cases failure with
    | watchError => exact raises_pure _ (fun s _ => by simp)
    | responseError => exact raises_throw _ (fun s _ => trivial)

-- A call that returns true has its change on record.
def Served (pid : Nat) : Request → Except Failure Reply → Redis → Prop
  | .acquire lease, .ok (.bool true), s => WasSet pid lease s
  | .refresh lease, .ok (.bool true), s => Ran pid lease (.pexpire lease.key lease.ttlMs) s
  | _, _, _ => True

theorem served_stable {result : Except Failure Reply} :
    Stable (leasing start).toContract pid (Served pid request result) := by
  intro s t served moved inv
  unfold Served at served ⊢
  split
  next => exact logged_stable s t served moved inv
  next => exact logged_stable s t served moved inv
  next => trivial

theorem served_error (failure : Failure) (s : Redis) : Served pid request (.error failure) s := by
  cases request <;> trivial

theorem serve_ends : Raises (leasing start).toContract pid request (fun _ => True) (serve request)
    (fun reply => Served pid request (.ok reply)) (fun _ _ => True) := by
  cases request with
  | acquire lease =>
      refine raises_map _ (raises_weaken (acquire_leases) (fun _ _ => trivial) (fun acquired s holds => ?_)
        (fun _ _ _ => trivial))
      cases acquired with
      | true => exact holds rfl
      | false => trivial
  | refresh lease =>
      refine raises_map _ (raises_weaken (if_ours_leases rfl) (fun _ _ => trivial) (fun ours s holds => ?_)
        (fun _ _ _ => trivial))
      cases ours with
      | true => exact holds rfl
      | false => trivial
  | release lease =>
      exact raises_bind (fun _ _ => True) (raises_bind _ (if_ours_leases rfl) (fun _ => raises_pure _ (fun _ _ => trivial)))
        (fun _ => raises_pure _ (fun _ _ => trivial))
  | expiry taskId =>
      refine raises_bind (fun _ _ => True) (leasing_ask anything_stable (fun s _ traced => ⟨?_, trivial⟩))
        (fun _ => raises_pure _ (fun _ _ => trivial))
      change Traced start (s.drops (leaseKey taskId))
      unfold Server.drops
      split
      next => exact traced
      next entry stored => exact traced_writes traced (by simp [Server.valueAt, stored, holderStep])

theorem serve_leases : Triple (leasing start).toContract pid request (fun _ => True) (serve request).run (Served pid request) := by
  refine triple_weaken serve_ends (fun _ _ => trivial) (fun result s ending => ?_)
  cases result with
  | ok reply => exact ending
  | error failure => exact served_error failure s

theorem leasing_runs (actions : List Action) (system : System) (run : Runs step Anything (boot start) actions system) :
    Sound (leasing start) Served system := by
  have met : Runs step (Pool.Meets (fun _ => True) (leasing start).guard (leasing start).mayCrash) (boot start) actions system :=
    runs_weaken (fun system action _ => by cases action <;> simp [Pool.Meets, leasing, Discipline.ofRely]) run
  exact runs_sound (D := leasing start) (fun pid request result => served_stable)
    (fun pid request s _ _ _ => serve_leases s trivial) (fun _ _ _ _ _ => served_error _ _) met
    (sound_start _ (fun key => Runs.nil ((start key).map Entry.value)) (fun _ => trivial))

end

-- Between two SETs of a key on record it was given up.
theorem traced_between_sets {start : String → Option (Entry String)} (s : Redis) (traced : Traced start s) (key : String)
    (front middle back : List (String × LeaseChange)) (first second : Nat) (lease other : TaskLease) (token fresh : String)
    (log : s.log = front ++ (key, .set first lease token) :: (middle ++ (key, .set second other fresh) :: back)) :
    ∃ change, (key, change) ∈ middle ∧ GivenUp change := by
  have run := traced key
  have split : changesOf key s.log =
      changesOf key front ++ (.set first lease token :: (changesOf key middle ++ (.set second other fresh :: changesOf key back))) := by
    simp [log, changesOf]
  rw [split] at run
  obtain ⟨before, -, rest⟩ := runs_split run
  cases rest with
  | cons _ taken _ _ _ _ stepped tail =>
      obtain ⟨free, between, last⟩ := runs_split tail
      cases last with
      | cons _ again _ _ _ _ retaken _ =>
          obtain ⟨change, member, given⟩ :=
            held_until_given_up between (by simp [(holder_set stepped).2]) (holder_set retaken).1
          exact ⟨change, mem_changes_of.mp member, given⟩

-- In every run, from any keys: a DEL or PEXPIRE that took effect was issued by the
-- lease whose token the key held; a refresh that returned true ran while the key held
-- its token; every acquire that returned true is a SET on record, and between two SETs
-- the key expired or was deleted by its holder.
theorem lease_ownership (keys : String → Option (Entry String)) (actions : List Action) (system : System)
    (run : Runs step Anything (boot keys) actions system) :
    (∀ key pid lease command held, (key, .ran pid lease command held) ∈ system.shared.log →
      held = lease.token ∧ key = lease.key) ∧
    (∀ pid lease, system.procs[pid]? = some (.refresh lease, .ret (.ok (.bool true))) →
      (lease.key, .ran pid lease (.pexpire lease.key lease.ttlMs) lease.token) ∈ system.shared.log) ∧
    (∀ pid lease, system.procs[pid]? = some (.acquire lease, .ret (.ok (.bool true))) →
      (lease.key, .set pid lease lease.token) ∈ system.shared.log) ∧
    (∀ key front middle back first second lease other token fresh,
      system.shared.log = front ++ (key, .set first lease token) :: (middle ++ (key, .set second other fresh) :: back) →
      ∃ change, (key, change) ∈ middle ∧ GivenUp change) := by
  have sound := leasing_runs actions system run
  refine ⟨fun key pid lease command held member => ?_, fun pid lease returned => sound.safe pid _ _ returned,
    fun pid lease returned => sound.safe pid _ _ returned, ?_⟩
  · obtain ⟨before, after, stepped⟩ := runs_step_of_mem (sound.inv key) _ (mem_changes_of.mpr member)
    exact (holder_ran stepped).2
  · exact traced_between_sets system.shared sound.inv

def stale : TaskLease := { taskId := 4, token := "a" }

def current : TaskLease := { taskId := 4, token := "b" }

def calls (pid count : Nat) : List Action := List.replicate count (.step pid ())

-- The first lease expires while its refresh stands between the comparison and the
-- write; the second one takes the key and refreshes it.
def takeover : List Action :=
  .arrive (.acquire stale) :: calls 0 1 ++ .arrive (.refresh stale) :: calls 1 2 ++ .arrive (.expiry 4) :: calls 2 1 ++
    .arrive (.acquire current) :: calls 3 1 ++ calls 1 1 ++ .arrive (.refresh current) :: calls 4 3

def returned (pid : Nat) (system : System) : Option (Request × Reply) :=
  match system.procs[pid]? with
  | some (request, .ret (.ok reply)) => some (request, reply)
  | _ => none

theorem returned_entry (pid : Nat) (system : System) (request : Request) (reply : Reply)
    (shown : returned pid system = some (request, reply)) : system.procs[pid]? = some (request, .ret (.ok reply)) := by
  unfold returned at shown
  split at shown
  next entry =>
    cases shown
    exact entry
  next => cases shown

theorem takeover_keeps_ownership :
    ∃ system, Runs step Anything (boot (fun _ => none)) takeover system ∧
      returned 1 system = some (.refresh stale, .bool false) ∧
      (current.key, .ran 4 current (.pexpire current.key current.ttlMs) current.token) ∈ system.shared.log := by
  obtain ⟨system, run, shown⟩ := runs_exhibit step
    (fun system => decide (returned 1 system = some (.refresh stale, .bool false) ∧
      returned 4 system = some (.refresh current, .bool true))) (boot (fun _ => none)) takeover (by decide +kernel)
  have both := of_decide_eq_true shown
  obtain ⟨-, refreshed, -⟩ := lease_ownership (fun _ => none) takeover system run
  exact ⟨system, run, both.1, refreshed 4 current (returned_entry 4 system _ _ both.2)⟩

end AiWorld.Lease
