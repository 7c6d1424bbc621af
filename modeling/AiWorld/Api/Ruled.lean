import AiWorld.Api.Columns

set_option autoImplicit false

namespace AiWorld.Api

open AiWorld.Concurrency AiWorld.Database

-- A transaction with nothing staged.
def Clean (pid : Nat) (s : Sys) : Prop := s.server.staged pid = []

theorem clean_view {pid : Nat} {s : Sys} (clean : Clean pid s) : s.server.view pid = s.db := by
  rw [Server.view, clean]
  rfl

def Kept (rule : CellRule Row) (s : Sys) : Prop := Tidy s.server ∧ Related rule s.server

theorem kept_boot (rule : CellRule Row) (db : Db) (nextId : Nat) (queue : List Nat) : Kept rule (boot db nextId queue).shared :=
  ⟨tidy_start db, related_start rule (fun _ => rfl)⟩

-- Processes that change the rows by a rule, with what they keep and rely on beside it:
-- an invariant, a promise of every step, a reliance on the others, and what holds for a
-- process that has not begun.
structure Regime (Req : Type) where
  rule : CellRule Row
  trans : ∀ held key a b c, rule.allows held key a b → rule.allows held key b c → rule.allows held key a c
  guard : Nat → Req → Stmt → Sys → Prop
  mayCrash : Nat → Sys → Prop
  extra : Sys → Prop
  promise : Sys → Sys → Prop
  also : Nat → Sys → Sys → Prop
  also_refl : ∀ pid s, also pid s s
  also_trans : ∀ pid s t u, Steady rule pid s.server t.server → also pid s t → also pid t u → also pid s u
  unbegun : Nat → Sys → Prop
  stays_unbegun : ∀ pid s t, also pid s t → unbegun pid s → unbegun pid t
  crashed : ∀ pid s, Kept rule s → extra s → mayCrash pid s →
    extra (s.crashes pid) ∧ promise s (s.crashes pid) ∧ ∀ other, other ≠ pid → also other s (s.crashes pid)

namespace Regime

variable {Req : Type} (R : Regime Req)

-- What one step of a process does beside its change of the rows.
def Sustains (pid : Nat) (s t : Sys) : Prop := R.extra t ∧ R.promise s t ∧ ∀ other, other ≠ pid → R.also other s t

theorem promised (pid : Nat) (s t : Sys) (kept : Kept R.rule t)
    (steady : ∀ other, other ≠ pid → Steady R.rule other s.server t.server) (sustains : R.Sustains pid s t) :
    Promised (fun s => Kept R.rule s ∧ R.extra s) R.promise (fun pid s t => Steady R.rule pid s.server t.server ∧ R.also pid s t)
      (fun pid s => s.server.staged pid = [] ∧ R.unbegun pid s) pid s t :=
  ⟨⟨kept, sustains.1⟩, sustains.2.1, fun other different => ⟨⟨steady other different, sustains.2.2 other different⟩, fun idle =>
    ⟨(steady other different).undisturbed.staged.trans idle.1,
      R.stays_unbegun other s t (sustains.2.2 other different) idle.2⟩⟩⟩

def discipline : Discipline machine Req :=
  .ofRely machine R.guard R.mayCrash (fun s => Kept R.rule s ∧ R.extra s) R.promise
    (fun pid s t => Steady R.rule pid s.server t.server ∧ R.also pid s t) (fun pid s => s.server.staged pid = [] ∧ R.unbegun pid s)
    (fun pid s => ⟨steady_refl R.rule pid s.server, R.also_refl pid s⟩)
    (fun pid s t u first second => ⟨steady_trans R.rule R.trans pid s.server t.server u.server first.1 second.1,
      R.also_trans pid s t u first.1 first.2 second.2⟩)
    (fun pid s inv may => by
      obtain ⟨kept, -, steady⟩ := crash_related pid s inv.1.1 inv.1.2
      exact R.promised pid s _ kept steady (R.crashed pid s inv.1 inv.2 may))

variable {R} {pid : Nat} {request : Req}

theorem guarantees (stmt : Stmt) (choice : Choice) (s t : Sys) (answer : Ans stmt) (kept : Kept R.rule s)
    (respects : ∀ query, stmt = .db query → Respects R.rule schema pid query s.server) (sustains : R.Sustains pid s t)
    (executed : exec pid stmt choice s = some (answer, t)) : R.discipline.guarantee pid s t := by
  obtain ⟨keptAfter, -, steady⟩ := exec_related kept.1 kept.2 respects executed
  exact R.promised pid s t keptAfter steady sustains

theorem asks {pre : Sys → Prop} {raised : Failure → Sys → Prop} (stmt : Stmt) (post : Ans stmt → Sys → Prop)
    (stable : Stable R.discipline.toContract pid pre)
    (respects : ∀ s query, Kept R.rule s → pre s → stmt = .db query → Respects R.rule schema pid query s.server)
    (executes : ∀ s choice answer t, pre s → Kept R.rule s → R.extra s → R.guard pid request stmt s →
      exec pid stmt choice s = some (answer, t) → R.Sustains pid s t ∧ post answer t) :
    Raises R.discipline.toContract pid request pre (ask stmt) post raised := by
  refine raises_ask (S := apiSig) stmt post stable (fun s choice answer t before inv met executed => ?_)
  obtain ⟨sustains, holds⟩ := executes s choice answer t before inv.1 inv.2 met executed
  exact ⟨guarantees stmt choice s t answer inv.1 (fun query => respects s query inv.1 before) sustains executed, holds⟩

end Regime

end AiWorld.Api
