import AiWorld.Concurrency.Raise

set_option autoImplicit false

namespace AiWorld.Hook

open AiWorld.Concurrency

-- One line of the state file; no runtime id stands for the dash.
structure HookState where
  run : Nat
  runtime : Option Nat
  heartbeat : Nat
deriving DecidableEq, Repr

inductive StateFile where
  | absent
  | corrupt
  | stored (state : HookState)
deriving DecidableEq, Repr

def StateFile.names : StateFile → Option Nat
  | .stored state => some state.run
  | _ => none

-- The run another hook has moved the session to.
def StateFile.movedFrom (refused : Nat) : StateFile → Option Nat
  | .stored state => if state.run ≠ refused ∧ state.runtime ≠ none then some state.run else none
  | _ => none

-- The classes `finish` logs.
inductive LogClass where
  | ok
  | throttled
  | duplicate
  | reused
  | reregistered
  | notRegistered
  | noState
  | badSource
  | badRef
  | badConfig
  | clientError
  | serverError
  | connFail
  | unexpected
  | killed
deriving DecidableEq, Repr

inductive HookEvent where
  | sessionStart
  | subagentStart
  | heartbeat
  | sessionEnd
deriving DecidableEq, Repr

-- Which look at the state file a read is.
inductive Glance where
  | first
  | recheck (run : Nat)
  | recovery (refused : Nat)
  | ending
deriving DecidableEq, Repr

-- What `api_call` leaves in `HTTP_CODE` and `RESP`, as far as it is looked at.
structure Reply where
  httpCode : Nat
  id : Option Nat := none
  parentSessionEnded : Bool := false
deriving DecidableEq, Repr

def Reply.succeeds (reply : Reply) : Bool := 200 ≤ reply.httpCode && reply.httpCode < 300

inductive HookStmt where
  | readState (glance : Glance)
  | writeState (event : HookEvent) (state : HookState)
  | removeState
  | mintUuid
  | nowEpoch
  | registerSession (run : Nat)
  | postSubagent (ref : String) (run : Nat)
  | patchSession (runtime : Option Nat)
deriving DecidableEq, Repr

-- A call without an answer is one before which `load_config` has ended the hook.
abbrev HookAns : HookStmt → Type
  | .readState _ => StateFile
  | .writeState _ _ => Unit
  | .removeState => Unit
  | .mintUuid => Nat
  | .nowEpoch => Nat
  | .registerSession _ => Option Reply
  | .postSubagent _ _ => Option Reply
  | .patchSession _ => Option Reply

abbrev hookSig : Sig := ⟨HookStmt, HookAns⟩

inductive HookOp where
  | read (glance : Glance) (seen : StateFile)
  | wrote (event : HookEvent) (before : StateFile) (state : HookState)
  | removed (before : StateFile)
  | registered (run : Nat)
  | posted (ref : String) (run : Nat) (accepted : Bool)
deriving DecidableEq, Repr

-- The state file of one session, and the run uuids still to be minted. `trace` records
-- what the hooks have done; `armed` lists the hooks that will write or remove the file
-- on the strength of what they have read, `minting` those that will write a new run.
structure Disk where
  file : StateFile
  nextUuid : Nat
  trace : List (Nat × HookOp) := []
  armed : List Nat := []
  minting : List Nat := []
deriving DecidableEq, Repr

structure HookChoice where
  time : Nat := 0
  renamed : Bool := true
  reply : Option Reply := none
deriving DecidableEq, Repr

def Glance.arms : Glance → StateFile → Bool
  | .recheck run, file => file.names = some run
  | .ending, _ => true
  | _, _ => false

def Glance.mints : Glance → StateFile → Bool
  | .recovery refused, file => file.movedFrom refused = none
  | _, _ => false

def without (pid : Nat) (pids : List Nat) : List Nat := pids.filter (fun other => other ≠ pid)

def joined (joins : Bool) (pid : Nat) (pids : List Nat) : List Nat := if joins then pid :: pids else pids

namespace Disk

variable (pid : Nat) (s : Disk)

def notes (op : HookOp) : Disk := { s with trace := s.trace ++ [(pid, op)] }

def stands : Disk := { s with armed := without pid s.armed, minting := without pid s.minting }

def reads (glance : Glance) : Disk :=
  { s.notes pid (.read glance s.file) with
    armed := joined (glance.arms s.file) pid s.armed
    minting := joined (glance.mints s.file) pid s.minting }

def writes (event : HookEvent) (state : HookState) : Bool → Disk
  | true => { (s.notes pid (.wrote event s.file state)).stands pid with file := .stored state }
  | false => s.stands pid

def removes : Disk := { (s.notes pid (.removed s.file)).stands pid with file := .absent }

def registers (run : Nat) : Option Reply → Disk
  | some reply => if reply.succeeds then s.notes pid (.registered run) else s.stands pid
  | none => s.stands pid

def posts (ref : String) (run : Nat) : Option Reply → Disk
  | some reply => s.notes pid (.posted ref run reply.succeeds)
  | none => s

end Disk

def perform (pid : Nat) (choice : HookChoice) (s : Disk) : (stmt : HookStmt) → HookAns stmt × Disk
  | .readState glance => (s.file, s.reads pid glance)
  | .writeState event state => ((), s.writes pid event state choice.renamed)
  | .removeState => ((), s.removes pid)
  | .mintUuid => (s.nextUuid, { s with nextUuid := s.nextUuid + 1 })
  | .nowEpoch => (choice.time, s)
  | .registerSession run => (choice.reply, s.registers pid run choice.reply)
  | .postSubagent ref run => (choice.reply, s.posts pid ref run choice.reply)
  | .patchSession _ => (choice.reply, s)

-- The hook has five seconds and may be killed anywhere.
def hooks : Machine hookSig HookChoice Disk where
  exec := fun pid stmt choice s => some (perform pid choice s stmt)
  crash := fun pid s => s.stands pid

abbrev HookM (α : Type) := ExceptT LogClass (Proc hookSig) α

def ask (stmt : HookStmt) : HookM (HookAns stmt) := ExceptT.lift (Proc.ask (S := hookSig) stmt)

def finish {α : Type} (logClass : LogClass) : HookM α := throw logClass

def classForCode (code : Nat) : LogClass :=
  if 200 ≤ code ∧ code < 300 then .ok
  else if 400 ≤ code ∧ code < 500 then .clientError
  else if 500 ≤ code ∧ code < 600 then .serverError
  else if code = 0 then .connFail
  else .unexpected

def called (reply : Option Reply) : HookM Reply :=
  match reply with
  | some reply => return reply
  | none => finish .badConfig

-- The runtime id, or the HTTP code that stands for what went wrong.
def registerSession (run : Nat) : HookM (Except Nat Nat) := do
  let answer : Option Reply ← ask (.registerSession run)
  let reply ← called answer
  if reply.succeeds then
    match reply.id with
    | some runtime => return .ok runtime
    | none => return .error 0
  else return .error reply.httpCode

inductive Source where
  | startup
  | resume
  | clear
  | compact
  | fork
  | other
deriving DecidableEq, Repr

def storeUnregistered (run : Nat) (logClass : LogClass) : HookM Unit :=
  if logClass = .connFail ∨ logClass = .serverError then ask (.writeState .sessionStart ⟨run, none, 0⟩) else return ()

def startRun (run : Nat) : HookM Unit := do
  let registered ← registerSession run
  match registered with
  | .ok runtime => do
      let now : Nat ← ask .nowEpoch
      ask (.writeState .sessionStart ⟨run, some runtime, now⟩)
      finish .ok
  | .error code => do
      storeUnregistered run (classForCode code)
      finish (classForCode code)

def startMinted : HookM Unit := do
  let run : Nat ← ask .mintUuid
  startRun run

def startFrom (source : Source) (state : HookState) : HookM Unit :=
  if source = .compact ∧ state.runtime ≠ none then finish .reused
  else if source = .startup ∧ state.runtime ≠ none then finish .duplicate
  else if source = .startup ∨ source = .compact then startRun state.run
  else startMinted

def onSessionStart (source : Source) : HookM Unit :=
  if source = .other then finish .badSource
  else do
    let file : StateFile ← ask (.readState .first)
    match file with
    | .stored state => startFrom source state
    | _ => startMinted

def heartbeatSeconds : Nat := 300

-- What is written back is what the second look saw.
def stampHeartbeat (run now : Nat) : HookM Unit := do
  let file : StateFile ← ask (.readState (.recheck run))
  match file with
  | .stored state =>
      if state.run = run then do
        ask (.writeState .heartbeat { state with heartbeat := now })
        let answer : Option Reply ← ask (.patchSession state.runtime)
        let reply ← called answer
        finish (classForCode reply.httpCode)
      else finish .noState
  | _ => finish .noState

def onHeartbeat : HookM Unit := do
  let file : StateFile ← ask (.readState .first)
  match file with
  | .stored state =>
      if state.runtime = none then finish .notRegistered
      else do
        let now : Nat ← ask .nowEpoch
        if state.heartbeat ≤ now ∧ now - state.heartbeat < heartbeatSeconds then finish .throttled
        else stampHeartbeat state.run now
  | _ => finish .noState

-- `finish` with `CLEANUP_STATE` set.
def cleanUp (logClass : LogClass) : HookM Unit := do
  ask .removeState
  finish logClass

def onSessionEnd : HookM Unit := do
  let file : StateFile ← ask (.readState .ending)
  match file with
  | .stored state =>
      if state.runtime = none then cleanUp .notRegistered
      else do
        let answer : Option Reply ← ask (.patchSession state.runtime)
        match answer with
        | some reply => cleanUp (classForCode reply.httpCode)
        | none => cleanUp .badConfig
  | _ => cleanUp .noState

def retrySubagent (ref : String) (run : Nat) : HookM Unit := do
  let answer : Option Reply ← ask (.postSubagent ref run)
  let reply ← called answer
  if reply.succeeds then finish .reregistered else finish (classForCode reply.httpCode)

def mintRun (ref : String) : HookM Unit := do
  let run : Nat ← ask .mintUuid
  let registered ← registerSession run
  match registered with
  | .ok runtime => do
      let now : Nat ← ask .nowEpoch
      ask (.writeState .subagentStart ⟨run, some runtime, now⟩)
      retrySubagent ref run
  | .error code => finish (classForCode code)

def recoverRun (ref : String) (refused : Nat) : HookM Unit := do
  let file : StateFile ← ask (.readState (.recovery refused))
  match file.movedFrom refused with
  | some run => retrySubagent ref run
  | none => mintRun ref

def postUnder (ref : String) (run : Nat) : HookM Unit := do
  let answer : Option Reply ← ask (.postSubagent ref run)
  let reply ← called answer
  if reply.succeeds then finish .ok
  else if reply.httpCode = 409 ∧ reply.parentSessionEnded = true then recoverRun ref run
  else finish (classForCode reply.httpCode)

def onSubagentStart (ref : Option String) : HookM Unit :=
  match ref with
  | none => finish .badRef
  | some ref => do
      let file : StateFile ← ask (.readState .first)
      match file with
      | .stored state => if state.runtime = none then finish .notRegistered else postUnder ref state.run
      | _ => finish .noState

-- A subagent event without a valid ref has none here.
inductive Hook where
  | sessionStart (source : Source)
  | subagentStart (ref : Option String)
  | heartbeat
  | sessionEnd
deriving DecidableEq, Repr

def serve : Hook → HookM Unit
  | .sessionStart source => onSessionStart source
  | .subagentStart ref => onSubagentStart ref
  | .heartbeat => onHeartbeat
  | .sessionEnd => onSessionEnd

abbrev Session := Pool hookSig Disk (Except LogClass Unit) Hook

abbrev HookLabel := Label HookChoice Hook

def lost : Except LogClass Unit := .error .killed

def step (session : Session) (label : HookLabel) : Option Session :=
  session.step hooks (fun hook => (serve hook).run) lost label

def boot (file : StateFile) (nextUuid : Nat) : Session := ⟨{ file := file, nextUuid := nextUuid }, []⟩

end AiWorld.Hook
