import AiWorld.Api.Writes

set_option autoImplicit false

namespace AiWorld.Api

open AiWorld.Concurrency AiWorld.Database

variable {write : Write Row} {query : Database.Stmt Row CloseCall} {db : Db} {stmt : Stmt} {t s : Sys} {choice : Choice}
  {pid : Nat} {key : Key}

-- What a database says of pinned columns goes on holding in the later one.
def Extends (before after : Db) : Prop := ∀ key, PinMoves key (before.lookup key) (after.lookup key)

theorem extends_refl (db : Db) : Extends db db := fun key => pin_moves_refl key _

theorem extends_trans {first : Db} (second : Db) {third : Db} (before : Extends first second) (after : Extends second third) :
    Extends first third := fun key => pin_moves_trans key _ _ _ (before key) (after key)

def Lasting (fact : Db → Prop) : Prop := ∀ before after, Extends before after → fact before → fact after

theorem lasting_and {fact other : Db → Prop} (first : Lasting fact) (second : Lasting other) :
    Lasting (fun db => fact db ∧ other db) :=
  fun before after grown holds => ⟨first before after grown holds.1, second before after grown holds.2⟩

theorem lasting_exists {α : Type} {fact : α → Db → Prop} (each : ∀ value, Lasting (fact value)) :
    Lasting (fun db => ∃ value, fact value db) :=
  fun before after grown ⟨value, holds⟩ => ⟨value, each value before after grown holds⟩

-- A row with a property of its pinned columns.
def Stored (key : Key) (shape : Row key → Prop) (db : Db) : Prop := ∃ row, db.lookup key = some row ∧ shape row

theorem stored_lasting {key : Key} {shape : Row key → Prop} (stays : PinMoves key = Persists (Pinned key))
    (closed : ∀ before after, Pinned key before after → shape before → shape after) :
    Lasting (Stored key shape) := by
  rintro before after grown ⟨row, stored, holds⟩
  have moves := grown key
  rw [stays, stored] at moves
  obtain ⟨found, present, pinned⟩ := persists_found moves
  exact ⟨found, present, closed row found pinned holds⟩

def Grown (s : Sys) : Prop := Tidy s.server ∧ Related pinRule s.server

theorem pins_write (pins : pinsColumns (.db query)) (issued : query.write = some write) (applies : query.applies schema db) :
    PinMoves write.key (db.lookup write.key) (write.cell (db.lookup write.key)) := by
  cases query with
  | insert key row =>
      cases issued
      have absent : db.lookup key = none := accepts_absent applies
      have moves := pin_moves_inserted row (pin_moves_refl key none)
      rw [← absent] at moves
      exact moves
  | update key loaded columns =>
      cases issued
      exact pin_moves_changed columns (pin_moves_refl key _) pins
  | updateWhere key wanted columns =>
      cases issued
      exact pin_moves_changed columns (pin_moves_refl key _) pins
  | delete key =>
      cases issued
      exact pins _
  | _ => cases issued

theorem write_extends
    (moves : PinMoves write.key (db.lookup write.key) (write.cell (db.lookup write.key))) : Extends db (write.apply db) := by
  intro key
  by_cases here : key = write.key
  · subst here
    rw [write.lookup_apply_self]
    exact moves
  · rw [write.lookup_apply_ne db key here]
    exact pin_moves_refl key _

theorem move_view_extends {s t : Server Row Index CloseCall} (pins : pinsColumns (.db query)) (forward : query ≠ .rollback)
    (move : Move schema pid query s t) : Extends (s.view pid) (t.view pid) := by
  cases move with
  | none => exact extends_refl _
  | grab grab granted => exact extends_refl _
  | write grab write granted covered issued applies sharing =>
      simpa using write_extends (pins_write pins issued applies)
  | note note issued => exact extends_refl _
  | commit issued => simpa using extends_refl _
  | rollback issued => exact absurd issued forward

-- A transaction sees more and more until it is rolled back.
theorem exec_view_extends (pid : Nat) (stmt : Stmt) (s t : Sys) (answer : Ans stmt) (pins : pinsColumns stmt)
    (forward : stmt ≠ .db .rollback) (executed : exec pid stmt choice s = some (answer, t)) :
    Extends (s.server.view pid) (t.server.view pid) := by
  rcases exec_moves executed with ⟨query, rfl, move⟩ | same
  · exact move_view_extends pins (fun back => forward (congrArg Stmt.db back)) move
  · exact same ▸ extends_refl _

theorem exec_select (executed : exec pid (.db .select) choice s = some (db, t)) : db = s.server.view pid ∧ t = s := by
  cases executed
  exact ⟨rfl, by simp [announced]⟩

theorem exec_insert {row : Row key} {inserted : Bool}
    (executed : exec pid (.db (.insert key row)) choice s = some (inserted, t)) :
    (inserted = false ∧ schema.accepts key row (s.server.view pid) = false ∧ t.server = s.server) ∨
      (inserted = true ∧ schema.accepts key row (s.server.view pid) = true ∧
        t.server.view pid = (s.server.view pid).insert key row) := by
  obtain ⟨⟨found, after⟩, performed, same⟩ := Option.map_eq_some_iff.mp executed
  cases same
  rcases inserts_cases performed with
    ⟨refused, unaccepted, rfl⟩ | ⟨answered, accepted, -, rfl⟩
  · exact .inl ⟨refused, unaccepted, rfl⟩
  · exact .inr ⟨answered, accepted, by simp [Write.apply]⟩

theorem exec_update_where {wanted : Row key → Bool} {columns : Row key → Row key} {found : Bool}
    (executed : exec pid (.db (.updateWhere key wanted columns)) choice s = some (found, t)) :
    (found = false ∧ t.server = s.server) ∨
      (found = true ∧ ∃ row, (s.server.view pid).lookup key = some row ∧ wanted row = true ∧
        (s.server.rowLock key = none ∨ s.server.rowLock key = some pid) ∧
        t.server = (s.server.grabs pid { rows := [key] }).stages pid (.change key columns)) := by
  obtain ⟨⟨answer, after⟩, performed, same⟩ := Option.map_eq_some_iff.mp executed
  cases same
  cases matched : ((s.server.view pid).lookup key).filter wanted with
  | none =>
      simp only [perform, matched] at performed
      cases performed
      exact .inl ⟨rfl, rfl⟩
  | some row =>
      simp only [perform, matched] at performed
      obtain ⟨moved, written, answered⟩ := Option.map_eq_some_iff.mp performed
      cases answered
      obtain ⟨granted, rfl⟩ := writes_cases written
      obtain ⟨stored, holds⟩ := Option.filter_eq_some_iff.mp matched
      exact .inr ⟨rfl, row, stored, holds, ((grantable_iff pid s.server _).mp granted).1 key (by simp [Write.key]), rfl⟩

section
variable (guard : Nat → Request → Stmt → Sys → Prop) (mayCrash : Nat → Sys → Prop) (extra : Sys → Prop)

theorem growth_crashes (pid : Nat) (s : Sys) (grown : Grown s) (kept : extra (s.crashes pid)) :
    Promised (fun s => Grown s ∧ extra s) (fun s t => Extends s.db t.db)
      (fun pid s t => Steady pinRule pid s.server t.server) (fun pid s => s.server.staged pid = []) pid s (s.crashes pid) := by
  obtain ⟨after, moved, steady⟩ := crash_related pid s grown.1 grown.2
  exact ⟨⟨after, kept⟩, moved, fun other different => ⟨steady other different, fun idle =>
    (steady other different).undisturbed.staged.trans idle⟩⟩

-- The rows only grow, beside an invariant of one's own that survives the crashes there
-- may be.
def growth (crashed : ∀ pid s, Grown s → extra s → mayCrash pid s → extra (s.crashes pid)) : Discipline machine Request :=
  .ofRely machine guard mayCrash (fun s => Grown s ∧ extra s) (fun s t => Extends s.db t.db)
    (fun pid s t => Steady pinRule pid s.server t.server) (fun pid s => s.server.staged pid = [])
    (fun pid s => steady_refl pinRule pid s.server)
    (fun pid s t u => steady_trans pinRule (fun _ => pin_moves_trans) pid s.server t.server u.server)
    (fun pid s inv may => growth_crashes extra pid s inv.1 (crashed pid s inv.1 inv.2 may))

variable {guard mayCrash extra} {crashed : ∀ pid s, Grown s → extra s → mayCrash pid s → extra (s.crashes pid)}
  {pid : Nat} {request : Request}

theorem growth_guarantees {answer : Ans stmt} (grown : Grown s) (pins : pinsColumns stmt) (kept : extra t)
    (executed : exec pid stmt choice s = some (answer, t)) : (growth guard mayCrash extra crashed).guarantee pid s t := by
  obtain ⟨after, moved, steady⟩ := exec_related grown.1 grown.2
    (fun query issued => by
      subst issued
      exact pins_respects grown.2 pins) executed
  exact ⟨⟨after, kept⟩, moved, fun other different => ⟨steady other different, fun idle =>
    (steady other different).undisturbed.staged.trans idle⟩⟩

def Seen (pid : Nat) (fact : Db → Prop) (s : Sys) : Prop := fact (s.server.view pid)

def Sure (fact : Db → Prop) (s : Sys) : Prop := fact s.db

variable {fact : Db → Prop}

theorem seen_stable (lasting : Lasting fact) : Stable (growth guard mayCrash extra crashed).toContract pid (Seen pid fact) :=
  fun _ _ holds moved _ => lasting _ _ moved.seen holds

theorem sure_stable (lasting : Lasting fact) : Stable (growth guard mayCrash extra crashed).toContract pid (Sure fact) :=
  fun _ _ holds moved _ => lasting _ _ moved.committed holds

theorem growth_ask {pre : Sys → Prop} {raised : Failure → Sys → Prop} {post : Ans stmt → Sys → Prop} (pins : pinsColumns stmt)
    (stable : Stable (growth guard mayCrash extra crashed).toContract pid pre)
    (executes : ∀ s choice answer t, pre s → Grown s → extra s → guard pid request stmt s →
      exec pid stmt choice s = some (answer, t) → extra t ∧ post answer t) :
    Raises (growth guard mayCrash extra crashed).toContract pid request pre (ask stmt) post raised := by
  refine raises_ask (S := apiSig) stmt post stable (fun s choice answer t before inv met executed => ?_)
  obtain ⟨kept, after⟩ := executes s choice answer t before inv.1 inv.2 met executed
  exact ⟨growth_guarantees inv.1 pins kept executed, after⟩

theorem growth_boot (db : Db) (nextId : Nat) (queue : List Nat) : Grown (boot db nextId queue).shared :=
  ⟨tidy_start db, related_start pinRule (fun _ => rfl)⟩

end

end AiWorld.Api
