import AiWorld.Api.Schema
import AiWorld.Concurrency.Raise

set_option autoImplicit false

namespace AiWorld.Api

open AiWorld.Concurrency AiWorld.Database

-- History variable: one committed call of `close_task`, with the rows it wrote.
structure CloseCall where
  runtimeSessionId : Nat
  closedBy : AgentRuntimeClosedBy
  isNew : Bool
  wrote : List Key
deriving DecidableEq, Repr

-- How the runtime adapter ends a model call, and how many ledger rows it committed
-- on the way. An exception that `execute_task` does not handle comes after the first
-- of them.
inductive ModelOutcome where
  | responded (ledgerRows : Nat) (valid : Bool)
  | budgetExceeded (ledgerRows : Nat)
  | modelGatewayError (ledgerRows : Nat)
  | raised (furtherRows : Nat)
deriving DecidableEq, Repr

-- `queue`, `lease` and `stream` are in Redis; an entry of the stream is here the id
-- of its event behind the process that announced it. The rest are history variables:
-- the queue entry a worker has popped and not yet disposed of, the task a process has
-- to enqueue after its commit, the pushes, the starts that reported a new task with
-- their mission and the task, the executions that have begun, and who drew which id.
structure Sys where
  server : Server Row Index CloseCall := {}
  nextId : Nat := 0
  queue : List Nat := []
  lease : Nat → Option Nat := fun _ => none
  stream : List (Nat × Nat) := []
  entry : Nat → Option Nat := fun _ => none
  owed : Nat → Option Nat := fun _ => none
  pushed : List (Nat × Nat) := []
  started : List (Nat × Nat × Nat) := []
  began : List (Nat × Nat) := []
  drawn : Nat → Option Nat := fun _ => none

inductive Stmt where
  | db (stmt : Database.Stmt Row CloseCall)
  | newId
  | now
  | model
  | reportStarted (missionId taskId : Nat)
  | owe (taskId : Nat)
  | push (taskId : Nat)
  | pop
  | leased (taskId : Nat)
  | acquire (taskId : Nat)
  | begin (taskId : Nat)
  | release (taskId : Nat)
  | expire (taskId : Nat)

def Ans : Stmt → Type
  | .db stmt => Database.Ans stmt
  | .newId => Nat
  | .now => Nat
  | .model => ModelOutcome
  | .reportStarted _ _ => Unit
  | .owe _ => Unit
  | .push _ => Unit
  | .pop => Option Nat
  | .leased _ => Bool
  | .acquire _ => Bool
  | .begin _ => Unit
  | .release _ => Unit
  | .expire _ => Unit

def apiSig : Sig := ⟨Stmt, Ans⟩

structure Choice where
  time : Nat := 0
  outcome : ModelOutcome := .responded 1 true
  streamDown : Bool := false

namespace Sys

variable (pid : Nat) (s : Sys)

def db : Db := s.server.db

def takesId : Sys := { s with nextId := s.nextId + 1, drawn := Function.update s.drawn s.nextId (some pid) }

def reports (missionId taskId : Nat) : Sys := { s with started := s.started ++ [(pid, missionId, taskId)] }

def owes (taskId : Nat) : Sys := { s with owed := Function.update s.owed pid (some taskId) }

-- LPUSH at the head, BRPOP at the tail.
def pushes (taskId : Nat) : Sys :=
  { s with
    queue := taskId :: s.queue
    owed := Function.update s.owed pid (released taskId (s.owed pid))
    pushed := s.pushed ++ [(pid, taskId)] }

def pops (taskId : Nat) : Sys :=
  { s with queue := s.queue.dropLast, entry := Function.update s.entry pid (some taskId) }

def acquires (taskId : Nat) : Sys := { s with lease := Function.update s.lease taskId (some pid) }

def begins (taskId : Nat) : Sys := { s with began := s.began ++ [(pid, taskId)] }

def disposes : Sys := { s with entry := Function.update s.entry pid none }

def releases (taskId : Nat) : Sys :=
  { s.disposes pid with lease := Function.update s.lease taskId (released pid (s.lease taskId)) }

def expires (taskId : Nat) : Sys := { s with lease := Function.update s.lease taskId none }

-- The connection to the database is lost with the process; its lease stays behind.
def crashes : Sys :=
  { s with
    server := s.server.rollsBack pid
    entry := Function.update s.entry pid none
    owed := Function.update s.owed pid none }

end Sys

-- `publish` adds the audit row to the session and writes the stream at once; a failure
-- of the XADD is only logged.
def announced (pid : Nat) (choice : Choice) : Database.Stmt Row CloseCall → List (Nat × Nat)
  | .insert (.event id) _ => if choice.streamDown then [] else [(pid, id)]
  | _ => []

-- A poll of the empty queue times out. `SET NX` fails while the key is there, and
-- `release` deletes it only if the token is the worker's own.
def exec (pid : Nat) : (stmt : Stmt) → Choice → Sys → Option (Ans stmt × Sys)
  | .db stmt, choice, s =>
      (perform schema pid stmt s.server).map (fun (answer, t) =>
        (answer, { s with server := t, stream := s.stream ++ announced pid choice stmt }))
  | .newId, _, s => some (s.nextId, s.takesId pid)
  | .now, choice, s => some (choice.time, s)
  | .model, choice, s => some (choice.outcome, s)
  | .reportStarted missionId taskId, _, s => some ((), s.reports pid missionId taskId)
  | .owe taskId, _, s => some ((), s.owes pid taskId)
  | .push taskId, _, s => some ((), s.pushes pid taskId)
  | .pop, _, s =>
      match s.queue.getLast? with
      | none => some (none, s)
      | some taskId => some (some taskId, s.pops pid taskId)
  | .leased taskId, _, s => some ((s.lease taskId).isSome, s)
  | .acquire taskId, _, s =>
      match s.lease taskId with
      | none => some (true, s.acquires pid taskId)
      | some _ => some (false, s.disposes pid)
  | .begin taskId, _, s => some ((), s.begins pid taskId)
  | .release taskId, _, s => some ((), s.releases pid taskId)
  | .expire taskId, _, s => some ((), s.expires taskId)

def machine : Machine apiSig Choice Sys := ⟨exec, Sys.crashes⟩

inductive Failure where
  | http (status : Nat) (detail : String)
  | integrity
  | invalidTransition (error : InvalidTransition)
  | valueError (message : String)
  | budgetExceeded
  | modelGateway
  | unexpected (message : String)
deriving DecidableEq, Repr

-- A response, by its status (201, 200, or none for the worker's own loops) and the
-- id of the row it returns.
inductive Reply where
  | created (id : Nat)
  | ok (id : Nat)
  | idle
deriving DecidableEq, Repr

abbrev Route (α : Type) := ExceptT Failure (Proc apiSig) α

def ask (stmt : Stmt) : Route (Ans stmt) := ExceptT.lift (Proc.ask (S := apiSig) stmt)

def select {α : Type} (query : Db → α) : Route α := do
  let db : Db ← ask (.db .select)
  return query db

def selectForUpdate (key : Key) (wanted : Row key → Bool) (loaded : Option (Row key)) : Route (Option (Row key)) :=
  ask (.db (.selectForUpdate key wanted loaded))

def selectSkipLocked (wanted : Db → List Key) (limit : Nat) : Route (List (Sigma Row)) :=
  ask (.db (.selectSkipLocked wanted limit))

-- An INSERT in a savepoint: false stands for the IntegrityError.
def tryInsert (key : Key) (row : Row key) : Route Bool := ask (.db (.insert key row))

def insert (key : Key) (row : Row key) : Route Unit := do
  let inserted ← tryInsert key row
  if inserted then return () else throw .integrity

def update (key : Key) (loaded : Row key) (columns : Row key → Row key) : Route Unit :=
  ask (.db (.update key loaded columns))

def updateWhere (key : Key) (holds : Row key → Bool) (columns : Row key → Row key) : Route Bool :=
  ask (.db (.updateWhere key holds columns))

def delete (key : Key) : Route Unit := ask (.db (.delete key))

def commit : Route Unit := ask (.db .commit)

def rollback : Route Unit := ask (.db .rollback)

def written : Route (List Key) := ask (.db .written)

def note (call : CloseCall) : Route Unit := ask (.db (.note call))

def newId : Route Nat := ask .newId

def now : Route Nat := ask .now

def model : Route ModelOutcome := ask .model

def reportStarted (missionId taskId : Nat) : Route Unit := ask (.reportStarted missionId taskId)

def owe (taskId : Nat) : Route Unit := ask (.owe taskId)

def enqueueTask (taskId : Nat) : Route Unit := ask (.push taskId)

def dequeueTask : Route (Option Nat) := ask .pop

def isLeased (taskId : Nat) : Route Bool := ask (.leased taskId)

def acquire (taskId : Nat) : Route Bool := ask (.acquire taskId)

def begin (taskId : Nat) : Route Unit := ask (.begin taskId)

def expire (taskId : Nat) : Route Unit := ask (.expire taskId)

def release (taskId : Nat) : Route Unit := ask (.release taskId)

def publishReason (reason : Option String) (eventType : EventType) (tenantId : Nat)
    (missionId taskId agentId : Option Nat) : Route Unit := do
  let id ← newId
  insert (.event id) ⟨tenantId, eventType, missionId, taskId, agentId, reason⟩

def publish (eventType : EventType) (tenantId : Nat) (missionId taskId agentId : Option Nat) : Route Unit :=
  publishReason none eventType tenantId missionId taskId agentId

-- A flush of rows added before `begin_nested` fails outside the savepoint: the whole
-- transaction is gone, and the session raises at the next statement that is not a
-- rollback.
def pendingRollback {α : Type} : Route α := throw (.unexpected "PendingRollbackError")

-- `get_db_session`: commit after the body has returned, roll back on any exception.
def getDbSession {α : Type} (body : Route α) : Route α :=
  tryCatch (do
    let reply ← body
    commit
    return reply) (fun failure => do
    rollback
    throw failure)

structure User where
  id : Nat
  tenantId : Nat
deriving DecidableEq, Repr

end AiWorld.Api
