import AiWorld.Concurrency.Raise
import AiWorld.Database.Server
import Mathlib.Data.List.Sort

set_option autoImplicit false

namespace AiWorld.Projects

open AiWorld.Concurrency AiWorld.Database

inductive ProjectStatus where
  | active
  | archived
deriving DecidableEq, Repr

structure Project where
  tenantId : Nat
  code : String
  name : String
  status : ProjectStatus
  createdAt : Nat
  createdBy : Nat
deriving DecidableEq, Repr

abbrev Row (_ : Nat) : Type := Project

-- `uq_projects_tenant_code`; the other unique key holds the primary key.
abbrev Index := Nat × String

def schema : Schema Row Index where
  indexed := fun _ row => [(row.tenantId, row.code)]
  references := fun _ _ => []
  valid := fun _ _ _ => true

def isActive (tenantId : Nat) (project : Project) : Bool := project.tenantId = tenantId ∧ project.status = .active

def activeCount (tenantId : Nat) (db : AList Row) : Nat := db.entries.countP (fun entry => isActive tenantId entry.2)

def ordered (first second : Nat × Nat) : Bool := first.1 < second.1 || (first.1 = second.1 && first.2 ≤ second.2)

-- Every active project of the tenant, and every one its rooms refer to.
def listed (tenantId : Nat) (referenced : List Nat) (id : Nat) (project : Project) : Bool :=
  project.tenantId = tenantId ∧ (project.status = .active ∨ id ∈ referenced)

-- `ORDER BY created_at, id`.
def placing (tenantId : Nat) (referenced : List Nat) (db : AList Row) : List (Nat × Nat) :=
  ((db.entries.filter (fun entry => listed tenantId referenced entry.1 entry.2)).map
    (fun entry => (entry.2.createdAt, entry.1))).insertionSort (ordered · · = true)

def projectsSummary (tenantId : Nat) (referenced : List Nat) (db : AList Row) : List Nat :=
  (placing tenantId referenced db).map Prod.snd

-- `advisory` holds the transaction-scoped advisory locks. `counted` and `shown` are
-- history: the committed state each count was made in, and the lists the rooms showed.
structure Town where
  server : Server Row Index Unit
  advisory : Int → Option Nat := fun _ => none
  clock : Nat := 0
  drawn : List Nat := []
  counted : List (Nat × AList Row) := []
  shown : List (Nat × List Nat) := []

inductive Stmt where
  | db (stmt : Database.Stmt Row Unit)
  | begin
  | rateLimit
  | lock (key : Int)
  | count (tenantId : Nat)
  | newId
  | summary (tenantId : Nat)

def Ans : Stmt → Type
  | .db stmt => Database.Ans stmt
  | .begin => Nat
  | .rateLimit => Bool
  | .lock _ => Unit
  | .count _ => Nat
  | .newId => Nat
  | .summary _ => List Nat

def projectSig : Sig := ⟨Stmt, Ans⟩

structure Choice where
  time : Nat := 0
  id : Nat := 0
  limited : Bool := false
  referenced : List Nat := []

def settles : Database.Stmt Row Unit → Bool
  | .commit => true
  | .rollback => true
  | _ => false

namespace Town

variable (pid : Nat) (s : Town)

def releases : Town := { s with advisory := fun key => released pid (s.advisory key) }

def follows (stmt : Database.Stmt Row Unit) (server : Server Row Index Unit) : Town :=
  if settles stmt then { s.releases pid with server := server } else { s with server := server }

def locks (key : Int) : Town := { s with advisory := Function.update s.advisory key (some pid) }

end Town

-- Transactions start at a clock that does not run back; ids are never drawn twice.
def exec (pid : Nat) : (stmt : Stmt) → Choice → Town → Option (Ans stmt × Town)
  | .db stmt, _, s => (Database.perform schema pid stmt s.server).map (fun (answer, server) => (answer, s.follows pid stmt server))
  | .begin, choice, s => some (Nat.max s.clock choice.time, { s with clock := Nat.max s.clock choice.time })
  | .rateLimit, choice, s => some (choice.limited, s)
  | .lock key, _, s => if free (s.advisory key) pid then some ((), s.locks pid key) else none
  | .count tenantId, _, s =>
      some (activeCount tenantId (s.server.view pid), { s with counted := s.counted ++ [(pid, s.server.db)] })
  | .newId, choice, s => if choice.id ∈ s.drawn then none else some (choice.id, { s with drawn := choice.id :: s.drawn })
  | .summary tenantId, choice, s =>
      some (projectsSummary tenantId choice.referenced (s.server.view pid),
        { s with shown := s.shown ++ [(tenantId, projectsSummary tenantId choice.referenced (s.server.view pid))] })

def machine : Machine projectSig Choice Town where
  exec := exec
  crash := fun pid s => { s.releases pid with server := s.server.rollsBack pid }

inductive Refusal where
  | tooManyRequests
  | codeExists (code : String)
  | capReached
  | notFound
  | lost
deriving DecidableEq, Repr

abbrev Call (α : Type) := ExceptT Refusal (Proc projectSig) α

def ask (stmt : Stmt) : Call (Ans stmt) := ExceptT.lift (Proc.ask (S := projectSig) stmt)

def maxActiveProjects : Nat := 48

def enforceRateLimit : Call Unit := do
  let limited : Bool ← ask .rateLimit
  if limited then throw .tooManyRequests else return ()

def hasCode (tenantId : Nat) (code : String) (db : AList Row) : Bool :=
  db.entries.any (fun entry => entry.2.tenantId = tenantId ∧ entry.2.code = code)

section
variable (lockKey : Nat → Int)

def lockTenantActiveProjectCount (tenantId : Nat) : Call Unit := ask (.lock (lockKey tenantId))

def insertProject (id : Nat) (project : Project) : Call Nat := do
  let inserted : Bool ← ask (.db (.insert id project))
  if inserted then return id else throw (.codeExists project.code)

def createProject (tenantId createdBy : Nat) (code name : String) : Call Nat := do
  let startedAt : Nat ← ask .begin
  enforceRateLimit
  lockTenantActiveProjectCount lockKey tenantId
  let db : AList Row ← ask (.db .select)
  if hasCode tenantId code db then throw (.codeExists code)
  else do
    let active : Nat ← ask (.count tenantId)
    if maxActiveProjects ≤ active then throw .capReached
    else do
      let id : Nat ← ask .newId
      insertProject id ⟨tenantId, code, name, .active, startedAt, createdBy⟩

def archived (project : Project) : Project := { project with status := .archived }

def archiveProject (tenantId id : Nat) : Call Nat := do
  let _ : Nat ← ask .begin
  enforceRateLimit
  let db : AList Row ← ask (.db .select)
  match (db.lookup id).filter (fun project => project.tenantId = tenantId) with
  | none => throw .notFound
  | some project =>
      if project.status = .archived then return id
      else do
        ask (.db (.update id project archived))
        return id

def listAgentRooms (tenantId : Nat) : Call (List Nat) := do
  let _ : Nat ← ask .begin
  ask (.summary tenantId)

inductive Request where
  | createProject (tenantId createdBy : Nat) (code name : String)
  | archiveProject (tenantId id : Nat)
  | listAgentRooms (tenantId : Nat)
deriving DecidableEq, Repr

inductive Response where
  | project (id : Nat)
  | rooms (projects : List Nat)
deriving DecidableEq, Repr

def route : Request → Call Response
  | .createProject tenantId createdBy code name => .project <$> createProject lockKey tenantId createdBy code name
  | .archiveProject tenantId id => .project <$> archiveProject tenantId id
  | .listAgentRooms tenantId => .rooms <$> listAgentRooms tenantId

def rollingBack (refusal : Refusal) : Call Response := do
  ask (.db .rollback)
  throw refusal

-- `get_db_session` around a route.
def serve (request : Request) : Call Response := do
  let response ← tryCatch (route lockKey request) rollingBack
  ask (.db .commit)
  return response

abbrev System := Pool projectSig Town (Except Refusal Response) Request

abbrev Action := Label Choice Request

def step (system : System) (action : Action) : Option System :=
  system.step machine (fun request => (serve lockKey request).run) (.error .lost) action

end

def boot (db : AList Row) : System := ⟨{ server := { db := db }, drawn := db.entries.map Sigma.fst }, []⟩

namespace Sample

def turn (pid : Nat) : Action := .step pid {}

end Sample

end AiWorld.Projects
