import AiWorld.Concurrency.Raise
import Mathlib.Logic.Function.Basic

set_option autoImplicit false

namespace AiWorld.Redis

open AiWorld.Concurrency

structure Entry (V : Type) where
  value : V
  ttlMs : Int

-- The commands a client may queue between MULTI and EXEC.
inductive Command (K : Type) where
  | pexpire (key : K) (ttlMs : Int)
  | del (key : K)
deriving DecidableEq

def Command.key {K : Type} : Command K → K
  | .pexpire key _ => key
  | .del key => key

-- A time to live that is not positive deletes the key.
def Command.removes {K : Type} : Command K → Bool
  | .pexpire _ ttlMs => ttlMs ≤ 0
  | .del _ => true

def Command.leaves {K V : Type} (command : Command K) (entry : Entry V) : Option (Entry V) :=
  match command with
  | .pexpire _ ttlMs => if ttlMs ≤ 0 then none else some { entry with ttlMs := ttlMs }
  | .del _ => none

-- History variable: a change that took effect on a key, with the client that made it,
-- on whose behalf (`issuer`), and the value the key held before it.
inductive Change (K V ι : Type) where
  | set (pid : Nat) (issuer : ι) (value : V)
  | ran (pid : Nat) (issuer : ι) (command : Command K) (held : V)
  | expired (held : V)
deriving DecidableEq

-- A client is marked dirty when a key it watches changes, and EXEC is refused to a
-- dirty client.
structure Server (K V ι : Type) where
  keys : K → Option (Entry V) := fun _ => none
  watched : Nat → List K := fun _ => []
  dirty : Nat → Bool := fun _ => false
  log : List (K × Change K V ι) := []

inductive SetReply where
  | ok
  | null
  | invalidExpire
deriving DecidableEq

-- `setNx` is SET NX PX. `expire` is no command: it is Redis dropping a key whose time
-- is up.
inductive Stmt (K V ι : Type) where
  | setNx (issuer : ι) (key : K) (value : V) (ttlMs : Int)
  | watch (key : K)
  | get (key : K)
  | exec (issuer : ι) (commands : List (Command K))
  | unwatch
  | expire (key : K)

def Ans {K V ι : Type} : Stmt K V ι → Type
  | .setNx _ _ _ _ => SetReply
  | .watch _ => Unit
  | .get _ => Option V
  | .exec _ _ => Option (List Bool)
  | .unwatch => Unit
  | .expire _ => Unit

def sig (K V ι : Type) : Sig := ⟨Stmt K V ι, Ans⟩

section
variable {K V ι : Type}

def Server.valueAt (s : Server K V ι) (key : K) : Option V := (s.keys key).map Entry.value

-- What a client can rely on: as long as it is clean, the keys it watches have not
-- changed.
structure Undisturbed (pid : Nat) (s t : Server K V ι) : Prop where
  watched : t.watched pid = s.watched pid
  clean : t.dirty pid = false → s.dirty pid = false ∧ ∀ key ∈ s.watched pid, t.keys key = s.keys key
  log : s.log <+: t.log

theorem undisturbed_refl (pid : Nat) (s : Server K V ι) : Undisturbed pid s s :=
  ⟨rfl, fun clean => ⟨clean, fun _ _ => rfl⟩, List.prefix_rfl⟩

theorem undisturbed_trans (pid : Nat) (s t u : Server K V ι) (first : Undisturbed pid s t) (second : Undisturbed pid t u) :
    Undisturbed pid s u := by
  refine ⟨second.watched.trans first.watched, fun clean => ?_, first.log.trans second.log⟩
  obtain ⟨between, later⟩ := second.clean clean
  obtain ⟨before, earlier⟩ := first.clean between
  exact ⟨before, fun key member => (later key (first.watched ▸ member)).trans (earlier key member)⟩

-- The client watches the key, and as long as it is clean the key holds what it read.
def Compared (pid : Nat) (key : K) (value : Option V) (s : Server K V ι) : Prop :=
  key ∈ s.watched pid ∧ (s.dirty pid = false → s.valueAt key = value)

theorem compared_undisturbed {pid : Nat} {key : K} {value : Option V} {s t : Server K V ι} (compared : Compared pid key value s)
    (moved : Undisturbed pid s t) : Compared pid key value t := by
  refine ⟨moved.watched ▸ compared.1, fun clean => ?_⟩
  obtain ⟨before, same⟩ := moved.clean clean
  rw [Server.valueAt, same key compared.1]
  exact compared.2 before

end

section
variable {K V ι : Type} [DecidableEq K]

namespace Server

def writes (s : Server K V ι) (key : K) (entry : Option (Entry V)) (change : Change K V ι) : Server K V ι :=
  { s with
    keys := Function.update s.keys key entry
    dirty := fun pid => s.dirty pid || (s.watched pid).contains key
    log := s.log ++ [(key, change)] }

def setsNx (pid : Nat) (issuer : ι) (key : K) (value : V) (ttlMs : Int) (s : Server K V ι) : SetReply × Server K V ι :=
  if ttlMs ≤ 0 then (.invalidExpire, s)
  else
    match s.keys key with
    | none => (.ok, s.writes key (some ⟨value, ttlMs⟩) (.set pid issuer value))
    | some _ => (.null, s)

def watches (pid : Nat) (key : K) (s : Server K V ι) : Server K V ι :=
  { s with watched := Function.update s.watched pid (key :: s.watched pid) }

def forgets (pid : Nat) (s : Server K V ι) : Server K V ι :=
  { s with watched := Function.update s.watched pid [], dirty := Function.update s.dirty pid false }

def runs (pid : Nat) (issuer : ι) (command : Command K) (s : Server K V ι) : Bool × Server K V ι :=
  match s.keys command.key with
  | none => (false, s)
  | some entry => (true, s.writes command.key (command.leaves entry) (.ran pid issuer command entry.value))

def runsAll (pid : Nat) (issuer : ι) : List (Command K) → Server K V ι → List Bool × Server K V ι
  | [], s => ([], s)
  | command :: rest, s =>
      let first := s.runs pid issuer command
      let others := runsAll pid issuer rest first.2
      (first.1 :: others.1, others.2)

def executes (pid : Nat) (issuer : ι) (commands : List (Command K)) (s : Server K V ι) :
    Option (List Bool) × Server K V ι :=
  if s.dirty pid then (none, s.forgets pid)
  else (some (s.runsAll pid issuer commands).1, (s.runsAll pid issuer commands).2.forgets pid)

def drops (key : K) (s : Server K V ι) : Server K V ι :=
  match s.keys key with
  | none => s
  | some entry => s.writes key none (.expired entry.value)

end Server

def exec (pid : Nat) : (stmt : Stmt K V ι) → Server K V ι → Ans stmt × Server K V ι
  | .setNx issuer key value ttlMs, s => s.setsNx pid issuer key value ttlMs
  | .watch key, s => ((), s.watches pid key)
  | .get key, s => (s.valueAt key, s)
  | .exec issuer commands, s => s.executes pid issuer commands
  | .unwatch, s => ((), s.forgets pid)
  | .expire key, s => ((), s.drops key)

-- The watches of a client that is gone are gone with its connection.
def machine (K V ι : Type) [DecidableEq K] : Machine (sig K V ι) Unit (Server K V ι) :=
  ⟨fun pid stmt _ s => some (exec pid stmt s), Server.forgets⟩

theorem writes_undisturbed (pid : Nat) (s : Server K V ι) (key : K) (entry : Option (Entry V)) (change : Change K V ι) :
    Undisturbed pid s (s.writes key entry change) := by
  refine ⟨rfl, fun clean => ?_, List.prefix_append _ _⟩
  obtain ⟨before, elsewhere⟩ : s.dirty pid = false ∧ key ∉ s.watched pid := by simpa [Server.writes] using clean
  refine ⟨before, fun other member => ?_⟩
  have different : other ≠ key := fun same => elsewhere (same ▸ member)
  simp [Server.writes, different]

theorem runs_all_undisturbed (pid other : Nat) (issuer : ι) (commands : List (Command K)) (s : Server K V ι) :
    Undisturbed other s (s.runsAll pid issuer commands).2 := by
  induction commands generalizing s with
  | nil => exact undisturbed_refl other s
  | cons command rest ih =>
      refine undisturbed_trans other _ _ _ ?_ (ih (s.runs pid issuer command).2)
      unfold Server.runs
      split
      next => exact undisturbed_refl other s
      next => exact writes_undisturbed other s _ _ _

section
variable (pid other : Nat) (different : other ≠ pid) (s : Server K V ι)
include different

omit [DecidableEq K] in
theorem forgets_undisturbed : Undisturbed other s (s.forgets pid) := by
  refine ⟨by simp [Server.forgets, different], fun clean => ⟨by simpa [Server.forgets, different] using clean, ?_⟩,
    List.prefix_rfl⟩
  exact fun _ _ => rfl

theorem exec_undisturbed (stmt : Stmt K V ι) : Undisturbed other s (exec pid stmt s).2 := by
  cases stmt with
  | setNx issuer key value ttlMs =>
      change Undisturbed other s (s.setsNx pid issuer key value ttlMs).2
      unfold Server.setsNx
      split
      next => exact undisturbed_refl other s
      next =>
        split
        next => exact writes_undisturbed other s _ _ _
        next => exact undisturbed_refl other s
  | watch key =>
      exact ⟨by simp [exec, Server.watches, different], fun clean => ⟨clean, fun _ _ => rfl⟩, List.prefix_rfl⟩
  | get key => exact undisturbed_refl other s
  | exec issuer commands =>
      change Undisturbed other s (s.executes pid issuer commands).2
      unfold Server.executes
      split
      next => exact forgets_undisturbed pid other different s
      next =>
        exact undisturbed_trans other _ _ _ (runs_all_undisturbed pid other issuer commands s)
          (forgets_undisturbed pid other different _)
  | unwatch => exact forgets_undisturbed pid other different s
  | expire key =>
      change Undisturbed other s (s.drops key)
      unfold Server.drops
      split
      next => exact undisturbed_refl other s
      next => exact writes_undisturbed other s _ _ _

end

end

end AiWorld.Redis
