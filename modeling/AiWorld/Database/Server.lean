import AiWorld.Concurrency.Rely
import AiWorld.Database.Store

set_option autoImplicit false

namespace AiWorld.Database

open AiWorld.Concurrency

section
variable {Key : Type} [DecidableEq Key] {Row : Key → Type} {Index Note : Type} [DecidableEq Index]

-- What the tables declare: the unique index entries a row occupies, the rows its
-- foreign keys name, and its other constraints.
structure Schema (Row : Key → Type) (Index : Type) where
  indexed : (key : Key) → Row key → List Index
  references : (key : Key) → Row key → List Key
  valid : (key : Key) → Row key → AList Row → Bool

-- A server at READ COMMITTED: a statement sees the committed rows under the writes
-- of its own transaction. `rowLock` is taken by UPDATE and by FOR UPDATE, `keyLock`
-- by FOR UPDATE alone, `shares` by the foreign keys of an INSERT, `entryLock` by the
-- unique index entries of an INSERT. `journal` and `pending` are history variables.
structure Server (Row : Key → Type) (Index Note : Type) where
  db : AList Row := ∅
  journal : List Note := []
  staged : Nat → List (Write Row) := fun _ => []
  pending : Nat → List Note := fun _ => []
  rowLock : Key → Option Nat := fun _ => none
  keyLock : Key → Option Nat := fun _ => none
  shares : Key → List Nat := fun _ => []
  entryLock : Index → Option Nat := fun _ => none

inductive Stmt (Row : Key → Type) (Note : Type) where
  | select
  | selectForUpdate (key : Key) (wanted : Row key → Bool) (loaded : Option (Row key))
  | selectSkipLocked (wanted : AList Row → List Key) (limit : Nat)
  | insert (key : Key) (row : Row key)
  | update (key : Key) (loaded : Row key) (columns : Row key → Row key)
  | updateWhere (key : Key) (holds : Row key → Bool) (columns : Row key → Row key)
  | delete (key : Key)
  | commit
  | rollback
  | written
  | note (note : Note)

-- An ORM session keeps the instance it has loaded: a locking select of it waits for
-- the lock and returns that instance, not the row it found.
def Ans : Stmt Row Note → Type
  | .select => AList Row
  | .selectForUpdate key _ _ => Option (Row key)
  | .selectSkipLocked _ _ => List (Sigma Row)
  | .insert _ _ => Bool
  | .update _ _ _ => Unit
  | .updateWhere _ _ _ => Bool
  | .delete _ => Unit
  | .commit => Unit
  | .rollback => Unit
  | .written => List Key
  | .note _ => Unit

-- The locks a statement asks for.
structure Grab (Key Index : Type) where
  rows : List Key := []
  strong : List Key := []
  shared : List Key := []
  entries : List Index := []

def free (holder : Option Nat) (pid : Nat) : Bool := holder = none ∨ holder = some pid

def released (pid : Nat) (holder : Option Nat) : Option Nat := if holder = some pid then none else holder

namespace Server

variable (pid : Nat) (s : Server Row Index Note)

def view : AList Row := replay (s.staged pid) s.db

def lockable (key : Key) : Bool := free (s.rowLock key) pid && (s.shares key).all (fun holder => holder = pid)

def grantable (grab : Grab Key Index) : Bool :=
  grab.rows.all (fun key => free (s.rowLock key) pid) && grab.strong.all (s.lockable pid) &&
    grab.shared.all (fun key => free (s.keyLock key) pid) && grab.entries.all (fun entry => free (s.entryLock entry) pid)

def grabs (grab : Grab Key Index) : Server Row Index Note :=
  { s with
    rowLock := fun key => if key ∈ grab.rows ∨ key ∈ grab.strong then some pid else s.rowLock key
    keyLock := fun key => if key ∈ grab.strong then some pid else s.keyLock key
    shares := fun key => if key ∈ grab.shared then pid :: s.shares key else s.shares key
    entryLock := fun entry => if entry ∈ grab.entries then some pid else s.entryLock entry }

def stages (write : Write Row) : Server Row Index Note :=
  { s with staged := Function.update s.staged pid (s.staged pid ++ [write]) }

def notes (note : Note) : Server Row Index Note :=
  { s with pending := Function.update s.pending pid (s.pending pid ++ [note]) }

def rollsBack : Server Row Index Note :=
  { s with
    staged := Function.update s.staged pid []
    pending := Function.update s.pending pid []
    rowLock := fun key => released pid (s.rowLock key)
    keyLock := fun key => released pid (s.keyLock key)
    shares := fun key => (s.shares key).filter (fun holder => holder ≠ pid)
    entryLock := fun entry => released pid (s.entryLock entry) }

def commits : Server Row Index Note :=
  { s.rollsBack pid with db := s.view pid, journal := s.journal ++ s.pending pid }

def writes (write : Write Row) : Option (Server Row Index Note) :=
  if s.grantable pid { rows := [write.key] } then some ((s.grabs pid { rows := [write.key] }).stages pid write) else none

end Server

-- The rows that keep a row from being inserted.
def Schema.rivals (schema : Schema Row Index) (key : Key) (row : Row key) (db : AList Row) : List Key :=
  (db.entries.filter (fun entry =>
    entry.1 = key ∨ (schema.indexed entry.1 entry.2).any (fun index => index ∈ schema.indexed key row))).map Sigma.fst

def Schema.accepts (schema : Schema Row Index) (key : Key) (row : Row key) (db : AList Row) : Bool :=
  (schema.rivals key row db).isEmpty && schema.valid key row db &&
    (schema.references key row).all (fun reference => (db.lookup reference).isSome)

def Schema.claims (schema : Schema Row Index) (key : Key) (row : Row key) : Grab Key Index where
  rows := [key]
  shared := schema.references key row
  entries := schema.indexed key row

-- An INSERT waits for every transaction that holds an equal index entry or a row in
-- its way, then fails or waits for the rows it references. A failed INSERT leaves
-- nothing behind: its savepoint, or its whole transaction, is rolled back.
def Server.inserts (schema : Schema Row Index) (pid : Nat) (key : Key) (row : Row key) (s : Server Row Index Note) :
    Option (Bool × Server Row Index Note) :=
  if s.grantable pid { rows := key :: schema.rivals key row (s.view pid), entries := schema.indexed key row } then
    if schema.accepts key row (s.view pid) then
      if s.grantable pid { shared := schema.references key row } then
        some (true, (s.grabs pid (schema.claims key row)).stages pid (.put key row))
      else none
    else some (false, s)
  else none

def Server.skips (pid : Nat) (wanted : AList Row → List Key) (limit : Nat) (s : Server Row Index Note) : List Key :=
  ((wanted (s.view pid)).filter (s.lockable pid)).take limit

def perform (schema : Schema Row Index) (pid : Nat) :
    (stmt : Stmt Row Note) → Server Row Index Note → Option (Ans stmt × Server Row Index Note)
  | .select, s => some (s.view pid, s)
  | .selectForUpdate key wanted loaded, s =>
      match ((s.view pid).lookup key).filter wanted with
      | none => some (none, s)
      | some row =>
          if s.grantable pid { strong := [key] } then some (some (loaded.getD row), s.grabs pid { strong := [key] })
          else none
  | .selectSkipLocked wanted limit, s =>
      some ((s.skips pid wanted limit).filterMap (fun key => ((s.view pid).lookup key).map (Sigma.mk key)),
        s.grabs pid { strong := s.skips pid wanted limit })
  | .insert key row, s => s.inserts schema pid key row
  | .update key _ columns, s =>
      match (s.view pid).lookup key with
      | none => some ((), s)
      | some _ => (s.writes pid (.change key columns)).map (fun t => ((), t))
  | .updateWhere key holds columns, s =>
      match ((s.view pid).lookup key).filter holds with
      | none => some (false, s)
      | some _ => (s.writes pid (.change key columns)).map (fun t => (true, t))
  | .delete key, s => (s.writes pid (.erase key)).map (fun t => ((), t))
  | .commit, s => some ((), s.commits pid)
  | .rollback, s => some ((), s.rollsBack pid)
  | .written, s => some ((s.staged pid).map Write.key, s)
  | .note note, s => some ((), s.notes pid note)

end

end AiWorld.Database
