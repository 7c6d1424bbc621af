import AiWorld.Concurrency.Rely
import AiWorld.Gateway.CircuitBreaker
import AiWorld.Gateway.Telemetry

set_option autoImplicit false

namespace AiWorld.Executor

open AiWorld.Concurrency AiWorld.Gateway

-- The database is cut to the rows of one task: every query of the executor, the
-- ledger and the checkpoint store selects by that task's id.
structure RowValues where
  provider : String
  model : String
  inputTokens : Int
  outputTokens : Int
  estimatedCost : ℚ
  latencyMs : Int
  status : ModelInvocationStatus
  requestHash : String
  responseHash : Option String
deriving DecidableEq, Repr

def rowValues (telemetry : ModelInvocationTelemetry) : RowValues :=
  ⟨telemetry.provider, telemetry.model, telemetry.inputTokens, telemetry.outputTokens, telemetry.estimatedCost,
    telemetry.latencyMs, telemetry.status, telemetry.requestHash, telemetry.responseHash⟩

structure ModelInvocation where
  id : Nat
  tenantId : Nat
  missionId : Nat
  taskId : Nat
  agentId : Nat
  values : RowValues
deriving DecidableEq, Repr

inductive CheckpointState where
  | promptAssembled (systemPrompt userPrompt assembledPromptHash provider model : String)
      (maxOutputTokens : Int) (budgetPolicy : BudgetPolicy)
  | modelResponded (rawResponseText provider model : String) (inputTokens outputTokens latencyMs : Int)
  | cancelled
deriving DecidableEq, Repr

structure Checkpoint where
  sequence : Nat
  state : CheckpointState
deriving DecidableEq, Repr

structure Artifact where
  id : Nat
  agentId : Nat
  agentVersionId : Nat
  artifactType : ArtifactType
  logicalOutputSlot : String
  title : String
  storageUri : String
  contentHash : String
  mimeType : String
deriving DecidableEq, Repr

structure TaskRow where
  id : Nat
  title : String
  instructions : String
  inputContext : String
  budgetPolicy : BudgetPolicy
  status : TaskStatus
  retryCount : Nat
  outputArtifactId : Option Nat
deriving DecidableEq, Repr

structure MissionRow where
  id : Nat
  tenantId : Nat
  objective : String
  status : MissionStatus
deriving DecidableEq, Repr

structure AuditEvent where
  eventType : EventType
  data : List (String × String)
deriving DecidableEq, Repr

structure TaskDb where
  task : TaskRow
  mission : MissionRow
  checkpoints : List Checkpoint := []
  invocations : List ModelInvocation := []
  artifacts : List Artifact := []
  events : List AuditEvent := []
deriving DecidableEq, Repr

inductive ProviderOutcome where
  | response (response : ModelResponse)
  | error (error : ProviderError)
deriving DecidableEq, Repr

-- What an observer outside the process sees: the ledger commits that took effect
-- and the provider requests that were started, each with its number in its call.
inductive Event where
  | begun (attempt : Nat)
  | sent (attempt : Option Nat) (number : Nat) (request : ModelRequest) (outcome : ProviderOutcome)
  | finished (attempt : Nat)
deriving DecidableEq, Repr

def isSend : Event → Bool
  | .sent _ _ _ _ => true
  | _ => false

def sentCount (trace : List Event) : Nat := trace.countP isSend

structure World where
  committed : TaskDb
  session : TaskDb
  objects : List (String × String) := []
  trace : List Event := []
  breaker : CircuitBreaker := {}
  nextId : Nat := 0

inductive Stmt where
  | view
  | stage (change : TaskDb → TaskDb)
  | commit (notes : List Event)
  | rollback
  | newId
  | now
  | send (attempt : Option Nat) (number : Nat) (request : ModelRequest)
  | putObject (key body : String)
  | beforeCall (provider : String)
  | recordSuccess (provider : String)
  | recordFailure (provider : String)

def Ans : Stmt → Type
  | .view => TaskDb
  | .stage _ => Unit
  | .commit _ => Bool
  | .rollback => Unit
  | .newId => Nat
  | .now => ℚ
  | .send _ _ _ => ProviderOutcome
  | .putObject _ _ => Bool
  | .beforeCall _ => Option ℚ
  | .recordSuccess _ => Unit
  | .recordFailure _ => Unit

def execSig : Sig := ⟨Stmt, Ans⟩

-- A write to the database or to the object store is done, refused, or done
-- without the caller learning of it.
inductive Effect where
  | done | refused | unacknowledged
deriving DecidableEq, Repr

structure Choice where
  time : ℚ := 0
  effect : Effect := .done
  outcome : ProviderOutcome := .error {}

namespace World

def stages (change : TaskDb → TaskDb) (w : World) : World := { w with session := change w.session }

def commits (notes : List Event) (w : World) : World := { w with committed := w.session, trace := w.trace ++ notes }

def rollsBack (w : World) : World := { w with session := w.committed }

def takesId (w : World) : World := { w with nextId := w.nextId + 1 }

def sends (event : Event) (w : World) : World := { w with trace := w.trace ++ [event] }

def stores (key body : String) (w : World) : World := { w with objects := (key, body) :: w.objects }

def breaks (breaker : CircuitBreaker) (w : World) : World := { w with breaker := breaker }

end World

-- A commit that raises ends the transaction, so the session reads the committed
-- rows again.
def perform : (stmt : Stmt) → Choice → World → Ans stmt × World
  | .view, _, w => (w.session, w)
  | .stage change, _, w => ((), w.stages change)
  | .commit notes, choice, w =>
      match choice.effect with
      | .done => (true, w.commits notes)
      | .refused => (false, w.rollsBack)
      | .unacknowledged => (false, w.commits notes)
  | .rollback, _, w => ((), w.rollsBack)
  | .newId, _, w => (w.nextId, w.takesId)
  | .now, choice, w => (choice.time, w)
  | .send attempt number request, choice, w =>
      (choice.outcome, w.sends (.sent attempt number request choice.outcome))
  | .putObject key body, choice, w =>
      match choice.effect with
      | .done => (true, w.stores key body)
      | .refused => (false, w)
      | .unacknowledged => (false, w.stores key body)
  | .beforeCall provider, choice, w =>
      ((w.breaker.beforeCall provider choice.time).1, w.breaks (w.breaker.beforeCall provider choice.time).2)
  | .recordSuccess provider, _, w => ((), w.breaks (w.breaker.recordSuccess provider))
  | .recordFailure provider, choice, w => ((), w.breaks (w.breaker.recordFailure provider choice.time))

def machine : Machine execSig Choice World := ⟨fun _ stmt choice w => some (perform stmt choice w), fun _ w => w.rollsBack⟩

-- Exceptions: the two that `execute_task` handles inline, and every other one.
inductive Failure where
  | budgetExceeded (reason : String) (attempts : List ModelInvocationTelemetry)
  | modelGateway (message : String) (attempts : List ModelInvocationTelemetry)
  | unexpected (message : String)
deriving DecidableEq, Repr

def Failure.text : Failure → String
  | .budgetExceeded reason _ => reason
  | .modelGateway message _ => message
  | .unexpected message => message

abbrev Exec (α : Type) := ExceptT Failure (Proc execSig) α

def ask (stmt : Stmt) : Exec (Ans stmt) := ExceptT.lift (Proc.ask (S := execSig) stmt)

def view : Exec TaskDb := ask .view

def stage (change : TaskDb → TaskDb) : Exec Unit := ask (.stage change)

def newId : Exec Nat := ask .newId

def now : Exec ℚ := ask .now

def send (attempt : Option Nat) (number : Nat) (request : ModelRequest) : Exec ProviderOutcome :=
  ask (.send attempt number request)

def putObject (key body : String) : Exec Bool := ask (.putObject key body)

def beforeCall (provider : String) : Exec (Option ℚ) := ask (.beforeCall provider)

def recordSuccess (provider : String) : Exec Unit := ask (.recordSuccess provider)

def recordFailure (provider : String) : Exec Unit := ask (.recordFailure provider)

def sessionRollback : Exec Unit := ask .rollback

def sessionCommit (notes : List Event) : Exec Unit := do
  let acknowledged : Bool ← ask (.commit notes)
  if acknowledged then return () else throw (.unexpected "commit failed")

def appendEvents (events : List AuditEvent) (db : TaskDb) : TaskDb := { db with events := db.events ++ events }

def publish (eventType : EventType) (data : List (String × String)) : Exec Unit :=
  stage (appendEvents [⟨eventType, data⟩])

end AiWorld.Executor
