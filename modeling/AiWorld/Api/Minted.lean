import AiWorld.Api.Columns

set_option autoImplicit false

namespace AiWorld.Api

open AiWorld.Concurrency AiWorld.Database

variable {t s : Sys} {pid : Nat} {query : Database.Stmt Row CloseCall}

-- The id a row is known by, where it is one of its own (`new_id`).
def Key.minted : Key → Option Nat
  | .modelPolicy id => some id
  | .agent id => some id
  | .agentVersion id => some id
  | .mission id => some id
  | .project id => some id
  | .missionProject _ => none
  | .task id => some id
  | .artifact id => some id
  | .modelInvocation id => some id
  | .checkpoint id => some id
  | .event id => some id
  | .roomAssignment id => some id
  | .session id => some id
  | .personaSlot id => some id
  | .closure id => some id

-- `new_id` never returns an id that is in use: ids are drawn in order, and a process
-- inserts under ids it has drawn itself.
structure Minted (s : Sys) : Prop where
  used : ∀ (key : Key) id, key.minted = some id → (s.db.lookup key).isSome = true → id < s.nextId
  drawn : ∀ id pid, s.drawn id = some pid → id < s.nextId
  staged : ∀ pid key row id, Write.put key row ∈ s.server.staged pid → key.minted = some id → s.drawn id = some pid

def mints (pid : Nat) (stmt : Stmt) (s : Sys) : Prop :=
  match stmt with
  | .db (.insert key _) => ∀ id, key.minted = some id → s.drawn id = some pid
  | _ => True

-- The others leave a process its ids, and insert nothing under them.
structure Mine (pid : Nat) (s t : Sys) : Prop where
  drawn : ∀ id, s.drawn id = some pid → t.drawn id = some pid
  absent : ∀ (key : Key) id, key.minted = some id → s.drawn id = some pid → s.db.lookup key = none → t.db.lookup key = none

theorem mine_refl (pid : Nat) (s : Sys) : Mine pid s s := ⟨fun _ drawn => drawn, fun _ _ _ _ absent => absent⟩

theorem mine_trans {u : Sys} (first : Mine pid s t) (second : Mine pid t u) : Mine pid s u :=
  ⟨fun id drawn => second.drawn id (first.drawn id drawn), fun key id minted drawn absent =>
    second.absent key id minted (first.drawn id drawn) (first.absent key id minted drawn absent)⟩

theorem seen_minted (pid : Nat) (s : Sys) (minted : Minted s) {key : Key} (id : Nat) (named : key.minted = some id)
    (stored : ((s.server.view pid).lookup key).isSome = true) : (s.db.lookup key).isSome = true ∨ s.drawn id = some pid :=
  (replay_lookup_cases s.server.db stored).imp_right
    (fun ⟨row, member⟩ => minted.staged pid key row id member named)

section
variable (pid : Nat) (s : Sys) {t : Sys}

-- Only the ids, and what is staged and committed, matter.
theorem minted_same (minted : Minted s) (server : t.server = s.server) (next : t.nextId = s.nextId) (drawn : t.drawn = s.drawn) :
    Minted t where
  used := fun key id named stored => by
    rw [next]
    exact minted.used key id named (by simpa only [Sys.db, server] using stored)
  drawn := fun id owner held => by
    rw [next]
    exact minted.drawn id owner (by rwa [drawn] at held)
  staged := fun owner key row id member named => by
    rw [drawn]
    exact minted.staged owner key row id (by rwa [server] at member) named

theorem mine_same (server : t.server = s.server) (drawn : t.drawn = s.drawn) : Mine pid s t :=
  ⟨fun id held => by rwa [drawn], fun key id _ _ absent => by simpa only [Sys.db, server] using absent⟩

theorem takes_id_minted (minted : Minted s) : Minted (s.takesId pid) where
  used := fun key id named stored => Nat.lt_succ_of_lt (minted.used key id named stored)
  drawn := fun id owner held => by
    by_cases fresh : id = s.nextId
    · exact fresh ▸ Nat.lt_succ_self _
    · exact Nat.lt_succ_of_lt (minted.drawn id owner (by simpa [Sys.takesId, fresh] using held))
  staged := fun owner key row id member named => by
    have held := minted.staged owner key row id member named
    have old : id ≠ s.nextId := Nat.ne_of_lt (minted.drawn id owner held)
    simpa [Sys.takesId, old] using held

theorem takes_id_mine (other : Nat) (minted : Minted s) : Mine other s (s.takesId pid) where
  drawn := fun id held => by
    have old : id ≠ s.nextId := Nat.ne_of_lt (minted.drawn id other held)
    simpa [Sys.takesId, old] using held
  absent := fun _ _ _ _ absent => absent

theorem takes_id_undrawn {other : Nat} (different : other ≠ pid) (id : Nat) (held : (s.takesId pid).drawn id = some other) :
    s.drawn id = some other := by
  by_cases fresh : id = s.nextId
  · have mine : some pid = some other := by simpa [Sys.takesId, fresh] using held
    exact absurd (Option.some.inj mine).symm different
  · simpa [Sys.takesId, fresh] using held

end

theorem move_minted (move : Move schema pid query s.server t.server) (next : t.nextId = s.nextId) (drawn : t.drawn = s.drawn)
    (minted : Minted s) (own : mints pid (.db query) s) : Minted t where
  used := fun key id named stored => by
    rw [next]
    rcases move_db move with same | ⟨-, after⟩
    · exact minted.used key id named (by simpa only [Sys.db, same] using stored)
    · have seen : ((s.server.view pid).lookup key).isSome = true := by simpa only [Sys.db, after, Server.commits_db] using stored
      rcases seen_minted pid s minted id named seen with before | held
      · exact minted.used key id named before
      · exact minted.drawn id pid held
  drawn := fun id owner held => by
    rw [next]
    exact minted.drawn id owner (by rwa [drawn] at held)
  staged := fun owner key row id member named => by
    rw [drawn]
    rcases move_staged move member with old | ⟨rfl, issued, -⟩
    · exact minted.staged owner key row id old named
    · cases query with
      | insert place fresh =>
          cases issued
          exact own id named
      | _ => cases issued

theorem move_mine {other : Nat} (different : other ≠ pid) (move : Move schema pid query s.server t.server)
    (drawn : t.drawn = s.drawn) (minted : Minted s) : Mine other s t where
  drawn := fun id held => by rwa [drawn]
  absent := fun key id named held absent => by
    rcases move_db move with same | ⟨-, after⟩
    · simpa only [Sys.db, same] using absent
    · change t.server.db.lookup key = none
      rw [after, Server.commits_db]
      cases seen : (s.server.view pid).lookup key with
      | none => rfl
      | some row =>
          rcases seen_minted pid s minted id named (by simp [seen]) with before | theirs
          · simp [absent] at before
          · exact absurd (Option.some.inj (held.symm.trans theirs)) different

-- An id that has been drawn and not used yet.
structure Fresh (pid id : Nat) (s : Sys) : Prop where
  drawn : s.drawn id = some pid
  unused : ∀ key : Key, key.minted = some id → s.db.lookup key = none
  unseen : ∀ key : Key, key.minted = some id → (s.server.view pid).lookup key = none

theorem takes_id_fresh (pid : Nat) (minted : Minted s) : Fresh pid s.nextId (s.takesId pid) where
  drawn := by simp [Sys.takesId]
  unused := fun key named => by
    cases stored : s.db.lookup key with
    | none => exact stored
    | some row => exact absurd (minted.used key _ named (by simp [stored])) (Nat.lt_irrefl _)
  unseen := fun key named => by
    cases stored : (s.server.view pid).lookup key with
    | none => exact stored
    | some row =>
        rcases seen_minted pid s minted _ named (by simp [stored]) with before | held
        · exact absurd (minted.used key _ named before) (Nat.lt_irrefl _)
        · exact absurd (minted.drawn _ pid held) (Nat.lt_irrefl _)

theorem fresh_mine {id : Nat} (fresh : Fresh pid id s) (moved : Undisturbed pid s.server t.server)
    (mine : Mine pid s t) : Fresh pid id t where
  drawn := mine.drawn id fresh.drawn
  unused := fun key named => mine.absent key id named fresh.drawn (fresh.unused key named)
  unseen := fun key named => by
    have committed : t.server.db.lookup key = s.server.db.lookup key :=
      (mine.absent key id named fresh.drawn (fresh.unused key named)).trans (fresh.unused key named).symm
    rw [Server.view, moved.staged]
    exact (lookup_replay_congr (s.server.staged pid) _ _ committed).trans (fresh.unseen key named)

-- The next id is above every id in use.
def Below (db : Db) (nextId : Nat) : Prop := ∀ (key : Key) id, key.minted = some id → (db.lookup key).isSome = true → id < nextId

def belowRows (db : Db) (nextId : Nat) : Bool := db.entries.all (fun entry => entry.1.minted.all (fun id => id < nextId))

theorem below_of_rows (db : Db) (nextId : Nat) (checked : belowRows db nextId = true) : Below db nextId := by
  intro key id named stored
  obtain ⟨row, present⟩ := Option.isSome_iff_exists.mp stored
  have small := List.all_eq_true.mp checked ⟨key, row⟩ (AList.mem_lookup_iff.mp present)
  simpa [named] using small

theorem boot_minted {db : Db} {nextId : Nat} (queue : List Nat) (below : Below db nextId) :
    Minted (boot db nextId queue).shared :=
  ⟨below, fun _ _ held => (by cases held), fun _ _ _ _ member => (by cases member)⟩

end AiWorld.Api
