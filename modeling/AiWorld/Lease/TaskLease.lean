import AiWorld.Redis.Server

set_option autoImplicit false

namespace AiWorld.Lease

open AiWorld.Concurrency AiWorld.Redis

def leaseKeyPrefix : String := "daythree:task_lease:"

def leaseTtlMs : Int := 20000

def leaseKey (taskId : Nat) : String := leaseKeyPrefix ++ toString taskId

structure TaskLease where
  taskId : Nat
  token : String
  ttlMs : Int := leaseTtlMs
deriving DecidableEq

def TaskLease.key (lease : TaskLease) : String := leaseKey lease.taskId

abbrev leaseSig : Sig := sig String String TaskLease

abbrev Redis := Server String String TaskLease

abbrev LeaseStmt := Stmt String String TaskLease

abbrev LeaseChange := Change String String TaskLease

inductive Failure where
  | watchError
  | responseError
deriving DecidableEq

abbrev Call (α : Type) := ExceptT Failure (Proc leaseSig) α

def ask (stmt : LeaseStmt) : Call (Ans stmt) := ExceptT.lift (Proc.ask (S := leaseSig) stmt)

namespace TaskLease

variable (lease : TaskLease)

def acquire : Call Bool := do
  let reply : SetReply ← ask (.setNx lease lease.key lease.token lease.ttlMs)
  match reply with
  | .ok => return true
  | .null => return false
  | .invalidExpire => throw .responseError

-- `pipe.execute()`: MULTI, the queued commands and EXEC.
def execute (commands : List (Command String)) : Call Unit := do
  let results : Option (List Bool) ← ask (.exec lease commands)
  match results with
  | some _ => return ()
  | none => throw .watchError

def notOurs : Failure → Call Bool
  | .watchError => return false
  | failure => throw failure

-- Leaving the pipeline while it still watches sends UNWATCH.
def ifOurs (command : Command String) : Call Bool :=
  tryCatch (do
    ask (.watch lease.key)
    let current : Option String ← ask (.get lease.key)
    if current = some lease.token then do
      lease.execute [command]
      return true
    else do
      ask .unwatch
      return false) notOurs

def refresh : Call Bool := lease.ifOurs (.pexpire lease.key lease.ttlMs)

def release : Call Unit := do
  let _ ← lease.ifOurs (.del lease.key)
  return ()

end TaskLease

inductive Request where
  | acquire (lease : TaskLease)
  | refresh (lease : TaskLease)
  | release (lease : TaskLease)
  | expiry (taskId : Nat)
deriving DecidableEq

inductive Reply where
  | bool (value : Bool)
  | none
deriving DecidableEq

def serve : Request → Call Reply
  | .acquire lease => .bool <$> lease.acquire
  | .refresh lease => .bool <$> lease.refresh
  | .release lease => do
      lease.release
      return .none
  | .expiry taskId => do
      ask (.expire (leaseKey taskId))
      return .none

abbrev System := Pool leaseSig Redis (Except Failure Reply) Request

abbrev Action := Label Unit Request

-- A call that is cancelled or dies with its worker.
def lost : Except Failure Reply := .error .responseError

def step (system : System) (action : Action) : Option System :=
  system.step (machine String String TaskLease) (fun request => (serve request).run) lost action

-- Nobody watches anything yet; the keys may be held by leases of before.
def boot (keys : String → Option (Entry String)) : System := ⟨{ keys := keys }, []⟩

end AiWorld.Lease
