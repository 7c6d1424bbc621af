import AiWorld.Api.Growth
import AiWorld.Api.Indexes
import AiWorld.Api.Ruled

set_option autoImplicit false

namespace AiWorld.Api

open AiWorld.Concurrency AiWorld.Database

variable {key : Key} {query : Database.Stmt Row CloseCall} {stmt : Stmt} {t s : Sys} {choice : Choice}

def CellMissioned (key : Key) (cell : Option (Row key)) : Prop := ∀ row, cell = some row → Missioned key row

-- Pinned columns stay, and runtime sessions have their missions.
def RecordCell (key : Key) (before after : Option (Row key)) : Prop :=
  PinMoves key before after ∧ (CellMissioned key before → CellMissioned key after)

theorem record_cell_refl (key : Key) (cell : Option (Row key)) : RecordCell key cell cell :=
  ⟨pin_moves_refl key cell, fun holds => holds⟩

theorem record_cell_trans (key : Key) (a b c : Option (Row key)) (first : RecordCell key a b) (second : RecordCell key b c) :
    RecordCell key a c :=
  ⟨pin_moves_trans key a b c first.1 second.1, fun holds => second.2 (first.2 holds)⟩

def recordRule : CellRule Row := ⟨fun _ => RecordCell, fun _ => record_cell_refl, fun _ _ _ _ _ _ moves => moves⟩

theorem missioned_pinned {row changed : Row key} (moves : PinMoves key (some row) (some changed))
    (missioned : Missioned key row) : Missioned key changed := by
  cases key with
  | session id =>
      have pinned : changed = _ := moves
      rw [pinned]
      exact missioned
  | _ => trivial

theorem changed_missioned {cell : Option (Row key)} (columns : Row key → Row key)
    (pins : ∀ row, PinMoves key (some row) (some (columns row))) (missioned : CellMissioned key cell) :
    CellMissioned key (cell.map columns) := by
  intro changed left
  obtain ⟨row, stored, rfl⟩ := Option.map_eq_some_iff.mp left
  exact missioned_pinned (pins row) (missioned row stored)

-- What every statement of every program does: it pins columns, and the runtime
-- sessions it inserts have missions.
def records : Stmt → Prop
  | .db (.insert key row) => Missioned key row
  | _ => True

theorem records_write {db : Db} (pins : pinsColumns (.db query)) (fits : records (.db query)) (write : Write Row)
    (issued : query.write = some write) (applies : query.applies schema db) :
    RecordCell write.key (db.lookup write.key) (write.cell (db.lookup write.key)) := by
  refine ⟨pins_write pins issued applies, fun missioned => ?_⟩
  cases query with
  | insert key row =>
      cases issued
      intro left same
      cases same
      exact fits
  | update key loaded columns =>
      cases issued
      exact changed_missioned columns pins missioned
  | updateWhere key wanted columns =>
      cases issued
      exact changed_missioned columns pins missioned
  | delete key =>
      cases issued
      intro left same
      cases same
  | _ => cases issued

theorem records_respects {pid : Nat} {s : Server Row Index CloseCall} (related : Related recordRule s)
    (pins : pinsColumns (.db query)) (fits : records (.db query)) : Respects recordRule schema pid query s :=
  respects_own (fun _ => record_cell_trans) related (records_write pins fits)

-- The unique indexes are on pinned columns, but for those of the rooms.
theorem pins_shrinks {wanted : Key → Bool} (rooms : ∀ id, wanted (.roomAssignment id) = false) (pins : pinsColumns (.db query))
    (write : Write Row) (issued : query.write = some write) : write.shrinks (schema.only wanted) := by
  have change : ∀ key (columns : Row key → Row key), (∀ row, PinMoves key (some row) (some (columns row))) →
      (Write.change key columns : Write Row).shrinks (schema.only wanted) := fun key columns pinned row entry listed => by
    cases key with
    | roomAssignment id => exact absurd ((rooms id).symm.trans (only_indexed listed).1) Bool.false_ne_true
    | missionProject id => cases (only_indexed listed).2
    | _ =>
        have same : columns row = _ := pinned row
        rw [same] at listed
        exact listed
  cases query with
  | insert key row =>
      cases issued
      trivial
  | update key loaded columns =>
      cases issued
      exact change key columns pins
  | updateWhere key wanted columns =>
      cases issued
      exact change key columns pins
  | delete key =>
      cases issued
      trivial
  | _ => cases issued

-- What holds of the runtime sessions in every run.
structure Records (s : Sys) : Prop where
  missioned : ∀ key, CellMissioned key (s.db.lookup key)
  unique : Unique sessionSchema s.server

def recordRegime : Regime Request where
  rule := recordRule
  trans := fun _ => record_cell_trans
  guard := fun _ _ _ _ => True
  mayCrash := anyCrash
  extra := Records
  promise := fun s t => Extends s.db t.db
  also := fun _ _ _ => True
  also_refl := fun _ _ => trivial
  also_trans := fun _ _ _ _ _ _ _ => trivial
  unbegun := fun _ _ => True
  stays_unbegun := fun _ _ _ _ _ => trivial
  crashed := fun pid s _ holds _ => by
    have db : (s.crashes pid).db = s.db := rfl
    exact ⟨⟨by rw [db]; exact holds.missioned, rollback_unique pid s.server holds.unique⟩, by rw [db]; exact extends_refl _,
      fun _ _ => trivial⟩

def recording : Discipline machine Request := recordRegime.discipline

theorem records_step {pid : Nat} {answer : Ans stmt} (kept : Kept recordRule s) (holds : Records s) (pins : pinsColumns stmt)
    (fits : records stmt) (executed : exec pid stmt choice s = some (answer, t)) : recordRegime.Sustains pid s t := by
  have respects : ∀ query, stmt = .db query → Respects recordRule schema pid query s.server := fun query issued => by
    subst issued
    exact records_respects kept.2 pins fits
  obtain ⟨-, moved, -⟩ := exec_related kept.1 kept.2 respects executed
  refine ⟨⟨fun key => (moved key).2 (holds.missioned key), ?_⟩, fun key => (moved key).1, fun _ _ => trivial⟩
  rcases exec_moves executed with ⟨query, rfl, move⟩ | same
  · exact move_unique kept.1 holds.unique (pins_shrinks (fun _ => rfl) pins)
      (move_only Key.isSession move)
  · exact same ▸ holds.unique

section
variable {pid : Nat} {request : Request} {pre : Sys → Prop} {raised : Failure → Sys → Prop} {fact : Db → Prop}

theorem recording_guarantees {answer : Ans stmt} (inv : recording.inv s) (pins : pinsColumns stmt) (fits : records stmt)
    (executed : exec pid stmt choice s = some (answer, t)) : recording.guarantee pid s t :=
  Regime.guarantees stmt choice s t answer inv.1 (fun query issued => by
      subst issued
      exact records_respects inv.1.2 pins fits)
    (records_step inv.1 inv.2 pins fits executed) executed

theorem recording_seen (lasting : Lasting fact) : Stable recording.toContract pid (Seen pid fact) :=
  fun _ _ holds moved _ => lasting _ _ (fun key => (moved.1.seen key).1) holds

theorem recording_sure (lasting : Lasting fact) : Stable recording.toContract pid (Sure fact) :=
  fun _ _ holds moved _ => lasting _ _ (fun key => (moved.1.committed key).1) holds

theorem recording_ask {post : Ans stmt → Sys → Prop} (pins : pinsColumns stmt) (fits : records stmt)
    (stable : Stable recording.toContract pid pre)
    (executes : ∀ s choice answer t, pre s → Records s → exec pid stmt choice s = some (answer, t) → post answer t) :
    Raises recording.toContract pid request pre (ask stmt) post raised :=
  raises_ask (S := apiSig) stmt post stable (fun s choice answer t before inv _ executed =>
    ⟨recording_guarantees inv pins fits executed, executes s choice answer t before inv.2 executed⟩)

variable {α : Type} {worker rolls : Bool} {body : Route α}

theorem recording_select {query : Db → α} {post : α → Sys → Prop} (stable : Stable recording.toContract pid pre)
    (reads : ∀ s, pre s → Records s → post (query (s.server.view pid)) s) :
    Raises recording.toContract pid request pre (select query) post raised := by
  refine raises_bind (fun (db : Db) s => post (query db) s)
    (recording_ask trivial trivial stable (fun s choice answer t before holds executed => ?_))
    (fun db => raises_pure _ (fun _ holds => holds))
  obtain ⟨rfl, rfl⟩ := exec_select executed
  exact reads _ before holds

theorem may_insert_missioned (fine : inScope ⟨worker, rolls, Missioned⟩ stmt) : records stmt := by
  cases stmt with
  | db query =>
      cases query with
      | insert key row => cases key <;> exact fine
      | _ => trivial
  | _ => trivial

-- A program that inserts sessions with missions does its part, and a part without a
-- rollback keeps what it has seen.
theorem recording_writes (writes : Writes ⟨worker, rolls, Missioned⟩ Fine body) :
    Raises recording.toContract pid request (fun _ => True) body (fun _ _ => True) (fun _ _ => True) :=
  triple_weaken (triple_issues (fun _ _ _ _ _ => trivial) (fun (stmt : Stmt) s choice answer t fine _ inv _ executed =>
    ⟨recording_guarantees inv fine.2.1 (may_insert_missioned fine.2.2.1) executed, trivial⟩) writes) (fun _ holds => holds) (fun result _ _ => by cases result <;> trivial)

theorem recording_keeps {post : α → Prop} (writes : Writes ⟨worker, false, Missioned⟩ post body) (lasting : Lasting fact) :
    Raises recording.toContract pid request (Seen pid fact) body (fun value s => post value ∧ Seen pid fact s)
      (fun _ => Seen pid fact) := by
  refine triple_weaken (triple_issues (recording_seen lasting) (fun (stmt : Stmt) s choice answer t fine seen inv _ executed =>
    ⟨recording_guarantees inv fine.2.1 (may_insert_missioned fine.2.2.1) executed, ?_⟩) writes) (fun _ holds => holds) (fun result _ holds => ?_)
  rotate_left
  · cases result with
    | ok value => exact holds
    | error failure => exact holds.2
  have forward : stmt ≠ .db .rollback := by
    rintro rfl
    exact absurd fine.2.2.1 Bool.false_ne_true
  exact lasting _ _ (exec_view_extends pid stmt s t answer fine.2.1 forward executed) seen

end

end AiWorld.Api
