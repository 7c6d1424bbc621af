import AiWorld.Api.Indexes
import AiWorld.Api.Ruled

set_option autoImplicit false

namespace AiWorld.Api

open AiWorld.Concurrency AiWorld.Database

variable {id : Nat}

-- What a run may be asked to meet beside: that a PATCH locks the session as it has
-- loaded it, and that a subagent is registered under an open session.
structure Terms where
  endsOnce : Prop
  parentsOpen : Prop

def endState (row : AgentRuntimeSession) : Option Nat × Option AgentRuntimeOutcome := (row.endedAt, row.outcome)

section
variable (terms : Terms) (held : Locks Key)

-- A session ends under its FOR UPDATE lock and stays ended; a subagent's row is
-- inserted under a share of its parent's.
structure SessionMoves (id : Nat) (before after : AgentRuntimeSession) : Prop where
  pinned : Pinned (.session id) before after
  stays : before.endedAt ≠ none → after.endedAt ≠ none
  locked : endState after = endState before ∨ held.strong (.session id)
  once : terms.endsOnce → before.kind = .session →
    endState after = endState before ∨ (before.endedAt = none ∧ after.endedAt ≠ none)

def SessionCell (id : Nat) : Option AgentRuntimeSession → Option AgentRuntimeSession → Prop
  | none, none => True
  | none, some row => (row.endedAt = none ∨ held.strong (.session id)) ∧
      ∀ parentId, row.parentSessionId = some parentId → held.shared (.session parentId)
  | some _, none => False
  | some before, some after => SessionMoves terms held id before after

-- A closure is inserted and closed late under the lock of its session.
structure ClosureMoves (before after : AgentRuntimeClosure) : Prop where
  pinned : after = { before with lateCloseAt := after.lateCloseAt }
  late : after.lateCloseAt = before.lateCloseAt ∨
    (before.lateCloseAt = none ∧ before.closedBy = .reaper ∧ held.strong (.session before.runtimeSessionId))

def ClosureCell : Option AgentRuntimeClosure → Option AgentRuntimeClosure → Prop
  | none, none => True
  | none, some row => held.strong (.session row.runtimeSessionId)
  | some _, none => False
  | some before, some after => ClosureMoves held before after

def TaskMoves (before after : Task) : Prop :=
  terms.parentsOpen → terminalTask before.status = true → terminalTask after.status = true

def RuntimeCell : (key : Key) → Option (Row key) → Option (Row key) → Prop
  | .session id, before, after => SessionCell terms held id before after
  | .closure _, before, after => ClosureCell held before after
  | .task _, before, after => Persists (TaskMoves terms) before after
  | _, _, _ => True

end

section
variable {terms : Terms} {held : Locks Key}

theorem session_moves_refl (id : Nat) (row : AgentRuntimeSession) : SessionMoves terms held id row row :=
  ⟨pinned_refl (.session id) row, fun ended => ended, .inl rfl, fun _ _ => .inl rfl⟩

theorem session_moves_trans {a b c : AgentRuntimeSession} (first : SessionMoves terms held id a b)
    (second : SessionMoves terms held id b c) : SessionMoves terms held id a c where
  pinned := pinned_trans (.session id) a b c first.pinned second.pinned
  stays := fun ended => second.stays (first.stays ended)
  locked := by
    rcases first.locked with same | strong
    · exact second.locked.imp_left (fun again => again.trans same)
    · exact .inr strong
  once := fun asked kind => by
    have middle : b.kind = .session := by
      rw [first.pinned]
      exact kind
    rcases first.once asked kind with same | ended
    · have times : b.endedAt = a.endedAt := congrArg Prod.fst same
      exact (second.once asked middle).imp (fun again => again.trans same) (fun ends => ⟨times.symm.trans ends.1, ends.2⟩)
    · rcases second.once asked middle with again | ends
      · have times : c.endedAt = b.endedAt := congrArg Prod.fst again
        exact .inr ⟨ended.1, times ▸ ended.2⟩
      · exact absurd ends.1 ended.2

theorem session_cell_refl (id : Nat) (row : Option AgentRuntimeSession) : SessionCell terms held id row row := by
  cases row with
  | none => trivial
  | some row => exact session_moves_refl id row

theorem session_cell_trans {a b c : Option AgentRuntimeSession} (first : SessionCell terms held id a b)
    (second : SessionCell terms held id b c) : SessionCell terms held id a c := by
  cases a with
  | none =>
      cases b with
      | none => exact second
      | some row =>
          cases c with
          | none => exact second.elim
          | some last =>
              have moves : SessionMoves terms held id row last := second
              refine ⟨?_, ?_⟩
              · rcases moves.locked with same | strong
                · have times : last.endedAt = row.endedAt := congrArg Prod.fst same
                  exact first.1.imp_left (fun still => times.trans still)
                · exact .inr strong
              · have parent : last.parentSessionId = row.parentSessionId := by rw [moves.pinned]
                intro parentId named
                exact first.2 parentId (parent.symm.trans named)
  | some before =>
      cases b with
      | none => exact first.elim
      | some middle =>
          cases c with
          | none => exact second.elim
          | some last => exact session_moves_trans first second

theorem closure_cell_refl (row : Option AgentRuntimeClosure) : ClosureCell held row row := by
  cases row with
  | none => trivial
  | some row => exact ⟨rfl, .inl rfl⟩

theorem closure_moves_trans {a b c : AgentRuntimeClosure} (first : ClosureMoves held a b) (second : ClosureMoves held b c) :
    ClosureMoves held a c where
  pinned := by rw [second.pinned, first.pinned]
  late := by
    have who : b.closedBy = a.closedBy := by rw [first.pinned]
    have whose : b.runtimeSessionId = a.runtimeSessionId := by rw [first.pinned]
    rcases second.late with same | ⟨unlate, reaper, strong⟩
    · exact first.late.imp_left (fun before => same.trans before)
    · rcases first.late with before | late
      · exact .inr ⟨before.symm.trans unlate, who.symm.trans reaper, whose ▸ strong⟩
      · exact .inr late

theorem closure_cell_trans {a b c : Option AgentRuntimeClosure} (first : ClosureCell held a b) (second : ClosureCell held b c) :
    ClosureCell held a c := by
  cases a with
  | none =>
      cases b with
      | none => exact second
      | some row =>
          cases c with
          | none => exact second.elim
          | some last =>
              have moves : ClosureMoves held row last := second
              have whose : last.runtimeSessionId = row.runtimeSessionId := by rw [moves.pinned]
              have strong : held.strong (.session row.runtimeSessionId) := first
              exact (whose ▸ strong : held.strong (.session last.runtimeSessionId))
  | some before =>
      cases b with
      | none => exact first.elim
      | some middle =>
          cases c with
          | none => exact second.elim
          | some last => exact closure_moves_trans first second

theorem runtime_cell_refl (key : Key) (row : Option (Row key)) : RuntimeCell terms held key row row := by
  cases key with
  | session id => exact session_cell_refl id row
  | closure id => exact closure_cell_refl row
  | task id => exact persists_refl (fun _ _ terminal => terminal) row
  | _ => trivial

theorem runtime_cell_trans {key : Key} {a b c : Option (Row key)} (first : RuntimeCell terms held key a b)
    (second : RuntimeCell terms held key b c) : RuntimeCell terms held key a c := by
  cases key with
  | session id => exact session_cell_trans first second
  | closure id => exact closure_cell_trans first second
  | task id => exact persists_trans (fun _ _ _ one two asked terminal => two asked (one asked terminal)) a c first second
  | _ => trivial

variable {more : Locks Key}

theorem session_moves_mono (within : held.Within more) {before after : AgentRuntimeSession}
    (moves : SessionMoves terms held id before after) : SessionMoves terms more id before after :=
  { moves with locked := moves.locked.imp_right (within.1 _) }

theorem runtime_cell_mono (within : held.Within more) (key : Key) (before after : Option (Row key))
    (moves : RuntimeCell terms held key before after) : RuntimeCell terms more key before after := by
  cases key with
  | session id =>
      cases before with
      | none =>
          cases after with
          | none => trivial
          | some row => exact ⟨moves.1.imp_right (within.1 _), fun parentId named => within.2 _ (moves.2 parentId named)⟩
      | some row =>
          cases after with
          | none => exact moves
          | some last => exact session_moves_mono within moves
  | closure id =>
      cases before with
      | none =>
          cases after with
          | none => trivial
          | some row => exact within.1 _ moves
      | some row =>
          cases after with
          | none => exact moves
          | some last =>
              have kept : ClosureMoves held row last := moves
              exact ⟨kept.pinned, kept.late.imp_right (fun late => ⟨late.1, late.2.1, within.1 _ late.2.2⟩)⟩
  | task id => exact moves
  | _ => trivial

end

def runtimeRule (terms : Terms) : CellRule Row :=
  ⟨fun held => RuntimeCell terms held, fun _ => runtime_cell_refl, fun _ _ key before after within =>
    runtime_cell_mono within key before after⟩

theorem runtime_rule_trans (terms : Terms) (held : Locks Key) (key : Key) (a b c : Option (Row key))
    (first : (runtimeRule terms).allows held key a b) (second : (runtimeRule terms).allows held key b c) :
    (runtimeRule terms).allows held key a c := runtime_cell_trans first second

end AiWorld.Api
