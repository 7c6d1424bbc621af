import AiWorld.Api.Interference
import AiWorld.Api.Registration
import AiWorld.Rooms.Slots

set_option autoImplicit false

namespace AiWorld.Api

open AiWorld.Concurrency AiWorld.Database

variable {agentId tenantId : Nat}

theorem slot_to_room_agrees (slot : Nat) :
    Rooms.slotToRoom slot = .ok (((slotToRoom slot).1 : Int), ((slotToRoom slot).2 : Int)) := by
  have natural : ¬ (slot : Int) < 0 := by omega
  rw [Rooms.slotToRoom, if_neg natural]
  simp only [Rooms.roomsPerFloor, slotToRoom, roomsPerFloor]
  congr 1

-- The fuel is enough as long as a free slot is within its reach.
theorem free_slot_from_least {occupied : List Nat} (fuel slot free : Nat) (near : slot ≤ free) (reached : free < slot + fuel)
    (vacant : free ∉ occupied) :
    freeSlotFrom occupied fuel slot ∉ occupied ∧ slot ≤ freeSlotFrom occupied fuel slot ∧
      ∀ earlier, slot ≤ earlier → earlier < freeSlotFrom occupied fuel slot → earlier ∈ occupied := by
  induction fuel generalizing slot with
  | zero => omega
  | succ fuel ih =>
      by_cases taken : slot ∈ occupied
      · have different : free ≠ slot := fun same => vacant (same ▸ taken)
        obtain ⟨vacantThere, beyond, before⟩ := ih (slot + 1) (by omega) (by omega)
        rw [freeSlotFrom, if_pos taken]
        refine ⟨vacantThere, by omega, fun earlier onward below => ?_⟩
        by_cases here : earlier = slot
        · exact here ▸ taken
        · exact before earlier (by omega) below
      · rw [freeSlotFrom, if_neg taken]
        exact ⟨taken, Nat.le_refl slot, fun earlier onward below => by omega⟩

theorem some_slot_free (occupied : List Nat) : ∃ free, free < occupied.length + 1 ∧ free ∉ occupied := by
  by_contra full
  have all : List.range (occupied.length + 1) ⊆ occupied := by
    intro slot member
    by_contra vacant
    exact full ⟨slot, List.mem_range.mp member, vacant⟩
  have counted := (List.nodup_range.subperm all).length_le
  rw [List.length_range] at counted
  omega

theorem lowest_free_slot_free (occupied : List Nat) :
    lowestFreeSlot occupied ∉ occupied ∧ ∀ earlier < lowestFreeSlot occupied, earlier ∈ occupied := by
  obtain ⟨free, below, vacant⟩ := some_slot_free occupied
  obtain ⟨found, -, before⟩ := free_slot_from_least (occupied.length + 1) 0 free (Nat.zero_le free) (by omega) vacant
  exact ⟨found, fun earlier => before earlier (Nat.zero_le earlier)⟩

theorem lowest_free_slot_agrees (occupied : List Nat) :
    Rooms.lowestFreeSlot (occupied.map Int.ofNat).toFinset = lowestFreeSlot occupied := by
  obtain ⟨free, before⟩ := lowest_free_slot_free occupied
  have member (slot : Nat) : (slot : Int) ∈ (occupied.map Int.ofNat).toFinset ↔ slot ∈ occupied := by
    rw [List.mem_toFinset]
    exact List.mem_map_of_injective (fun _ _ same => Int.ofNat.inj same)
  refine (Rooms.lowest_free_slot_least _).unique ⟨⟨by omega, fun taken => free ((member _).mp taken)⟩, ?_⟩
  intro other above
  by_contra less
  obtain ⟨natural, vacant⟩ := above
  obtain ⟨slot, rfl⟩ := Int.eq_ofNat_of_zero_le natural
  exact vacant ((member slot).mpr (before slot (by omega)))

theorem picked_room_agrees (tenantId agentId : Nat) (occupied : List Nat) :
    Rooms.slotToRoom (Rooms.lowestFreeSlot (occupied.map Int.ofNat).toFinset) =
      .ok (((newAssignment tenantId agentId occupied).floor : Int), ((newAssignment tenantId agentId occupied).roomIndex : Int)) := by
  rw [lowest_free_slot_agrees]
  exact slot_to_room_agrees _

theorem slot_of_picked (slot : Nat) : roomToSlot (slotToRoom slot).1 (slotToRoom slot).2 = slot := by
  simp only [roomToSlot, slotToRoom, roomsPerFloor]
  omega

-- A room that is held is held at an occupied slot.
theorem picked_room_free (tenantId agentId : Nat) (db : Db) (held : Loaded AgentRoomAssignment)
    (active : held ∈ listAssignments tenantId db) :
    ((newAssignment tenantId agentId (occupiedSlots tenantId db)).floor,
      (newAssignment tenantId agentId (occupiedSlots tenantId db)).roomIndex) ≠ (held.2.floor, held.2.roomIndex) := by
  intro same
  obtain ⟨sameFloor, sameIndex⟩ := Prod.mk.inj same
  apply (lowest_free_slot_free (occupiedSlots tenantId db)).1
  rw [← slot_of_picked (lowestFreeSlot (occupiedSlots tenantId db))]
  refine List.mem_map.mpr ⟨held, active, ?_⟩
  exact congrArg₂ roomToSlot sameFloor.symm sameIndex.symm

theorem mem_room_assignments (db : Db) (row : Nat × AgentRoomAssignment) :
    row ∈ db.roomAssignments ↔ db.lookup (.roomAssignment row.1) = some row.2 :=
  mem_table _ (fun row : Nat × AgentRoomAssignment => ⟨.roomAssignment row.1, row.2⟩)
    (by rintro ⟨key, stored⟩ ⟨id, row⟩; cases key <;> simp) db row

theorem mem_list_assignments (tenantId : Nat) (row : Nat × AgentRoomAssignment) (db : Db) :
    row ∈ listAssignments tenantId db ↔
      db.lookup (.roomAssignment row.1) = some row.2 ∧ row.2.tenantId = tenantId ∧ row.2.releasedAt = none := by
  rw [listAssignments, List.mem_filter, mem_room_assignments, decide_eq_true_eq]

theorem new_assignment_accepted {id : Nat} {db : Db} (fresh : db.lookup (.roomAssignment id) = none)
    (unhoused : getAssignment tenantId agentId db = none) (agent : (db.agent agentId).isSome = true) :
    schema.accepts (.roomAssignment id) (newAssignment tenantId agentId (occupiedSlots tenantId db)) db = true := by
  have claims : schema.indexed (.roomAssignment id) (newAssignment tenantId agentId (occupiedSlots tenantId db)) =
      [.activeRoom tenantId (newAssignment tenantId agentId (occupiedSlots tenantId db)).floor
        (newAssignment tenantId agentId (occupiedSlots tenantId db)).roomIndex, .activeAgent tenantId agentId] := rfl
  -- A row in the way is an active assignment of the room or of the agent.
  have apart (other : Nat) (row : AgentRoomAssignment) (present : db.lookup (.roomAssignment other) = some row) (entry : Index)
      (taken : entry ∈ indexed (.roomAssignment other) row) :
      entry ∉ schema.indexed (.roomAssignment id) (newAssignment tenantId agentId (occupiedSlots tenantId db)) := by
    intro listed
    cases released : row.releasedAt with
    | some time => simp [indexed, released] at taken
    | none =>
        have entries : entry = .activeRoom row.tenantId row.floor row.roomIndex ∨ entry = .activeAgent row.tenantId row.agentId := by
          simpa [indexed, released] using taken
        rw [claims] at listed
        rcases entries with rfl | rfl
        · obtain ⟨tenant, floor, index⟩ : row.tenantId = tenantId ∧
              row.floor = (newAssignment tenantId agentId (occupiedSlots tenantId db)).floor ∧
              row.roomIndex = (newAssignment tenantId agentId (occupiedSlots tenantId db)).roomIndex := by simpa using listed
          have active := (mem_list_assignments tenantId (other, row) db).mpr ⟨present, tenant, released⟩
          exact picked_room_free tenantId agentId db (other, row) active (by rw [floor, index])
        · obtain ⟨tenant, owner⟩ : row.tenantId = tenantId ∧ row.agentId = agentId := by simpa using listed
          have active := (mem_list_assignments tenantId (other, row) db).mpr ⟨present, tenant, released⟩
          have unowned := List.find?_eq_none.mp unhoused (other, row) active
          simp [owner] at unowned
  apply accepts_intro
  · intro rival found present
    refine ⟨fun same => ?_, fun entry taken listed => ?_⟩
    · subst same
      cases fresh.symm.trans present
    · by_cases room : ∃ other, rival = .roomAssignment other
      · obtain ⟨other, rfl⟩ := room
        exact apart other found present entry taken listed
      · exact room_index_disjoint found id (newAssignment tenantId agentId (occupiedSlots tenantId db))
          (fun other same => room ⟨other, same⟩) entry taken listed
  · exact new_assignment_valid tenantId agentId id _ db
  · intro reference member
    obtain rfl : reference = .agent agentId := by simpa [schema, references, newAssignment] using member
    exact agent

section
variable {pid : Nat} {seen committed : Db} {nextId : Nat} {s : Sys} {raised : Failure → Sys → Prop}

theorem ensure_assignment_found {existing : Loaded AgentRoomAssignment}
    (housed : getAssignment tenantId agentId seen = some existing) (alone : Alone pid seen committed nextId s) :
    Solo pid (fun found t => found = some existing.1 ∧ Alone pid seen committed nextId t) raised
      (ensureAssignment tenantId agentId) s := by
  refine finishes_catch (fun _ _ => False) (finishes_bind _ (alone_select _ alone) ?_) (fun _ _ impossible => impossible.elim)
  intro answer t holds
  obtain ⟨rfl, still⟩ := holds
  rw [housed]
  exact finishes_pure _ t ⟨rfl, still⟩

-- Alone, the first attempt succeeds.
theorem ensure_assignment_allocates (fresh : seen.lookup (.roomAssignment nextId) = none)
    (unhoused : getAssignment tenantId agentId seen = none) (agent : (seen.agent agentId).isSome = true)
    (alone : Alone pid seen committed nextId s) :
    Solo pid
      (fun found t => found = some nextId ∧
        Alone pid (seen.insert (.roomAssignment nextId) (newAssignment tenantId agentId (occupiedSlots tenantId seen))) committed
          (nextId + 1) t) raised (ensureAssignment tenantId agentId) s := by
  refine finishes_catch (fun _ _ => False) (finishes_bind _ (alone_select _ alone) ?_) (fun _ _ impossible => impossible.elim)
  intro answer t holds
  obtain ⟨rfl, still⟩ := holds
  rw [unhoused]
  refine finishes_bind _ (alone_select _ still) (fun occupied t holds => ?_)
  obtain ⟨rfl, still⟩ := holds
  refine finishes_bind _ (alone_new_id still) (fun id t holds => ?_)
  obtain ⟨rfl, still⟩ := holds
  refine finishes_bind _ (alone_try_insert still
    (new_assignment_accepted fresh unhoused agent)) (fun inserted t holds => ?_)
  obtain ⟨rfl, still⟩ := holds
  exact finishes_pure _ t ⟨rfl, still⟩

theorem get_db_session_commits {α : Type} (post : α → Db → Nat → Prop) {body : Route α}
    (runs : Solo pid (fun value t => ∃ seen nextId, post value seen nextId ∧ Alone pid seen committed nextId t)
    (fun _ _ => False) body s) :
    Solo pid (fun value t => ∃ seen nextId, post value seen nextId ∧ Alone pid seen seen nextId t) raised
    (getDbSession body) s := by
  refine finishes_catch (fun _ _ => False) (finishes_bind _ runs (fun value t holds => ?_)) (fun _ _ impossible => impossible.elim)
  obtain ⟨seen, nextId, shown, alone⟩ := holds
  refine finishes_bind _ (alone_commit alone) (fun _ t done => finishes_pure _ t ?_)
  exact ⟨seen, nextId, shown, done⟩

end

-- What a call that runs alone does to the rooms of the tenant.
def Housed (tenantId agentId : Nat) (before : Db) : Except Failure (Option Nat) → Db → Prop
  | .ok (some id), after =>
      (∃ row, getAssignment tenantId agentId before = some (id, row) ∧ after = before) ∨
        (getAssignment tenantId agentId before = none ∧ before.lookup (.roomAssignment id) = none ∧
          ∃ row, after = before.insert (.roomAssignment id) row ∧ row.tenantId = tenantId ∧ row.agentId = agentId ∧
            row.releasedAt = none ∧
            ∀ held ∈ listAssignments tenantId before, (row.floor, row.roomIndex) ≠ (held.2.floor, held.2.roomIndex))
  | _, _ => False

theorem ensure_assignment_houses (tenantId agentId pid : Nat) (s : Sys) (calm : Calm s) (below : Below s.db s.nextId)
    (agent : (s.db.agent agentId).isSome = true) :
    Completes machine pid anyChoice (fun result t => Housed tenantId agentId s.db result t.db)
      (getDbSession (ensureAssignment tenantId agentId)).run s := by
  have alone := (calm_poised s calm pid).alone
  have fresh : s.db.lookup (.roomAssignment s.nextId) = none :=
    below_absent s.db s.nextId below (.roomAssignment s.nextId) s.nextId rfl (Nat.le_refl _)
  have houses : Solo pid
      (fun found t => ∃ seen nextId, Alone pid seen s.db nextId t ∧ Housed tenantId agentId s.db (.ok found) seen)
      (fun failure t => ∃ seen nextId, Alone pid seen s.db nextId t ∧ Housed tenantId agentId s.db (.error failure) s.db)
      (ensureAssignment tenantId agentId) s := by
    cases found : getAssignment tenantId agentId s.db with
    | some existing =>
        refine finishes_weaken (ensure_assignment_found found alone) ?_ (fun _ _ raised => raised)
        intro answer t holds
        obtain ⟨rfl, still⟩ := holds
        exact ⟨s.db, s.nextId, still, .inl ⟨existing.2, found, rfl⟩⟩
    | none =>
        refine finishes_weaken (ensure_assignment_allocates fresh found agent alone) ?_ (fun _ _ raised => raised)
        intro answer t holds
        obtain ⟨rfl, still⟩ := holds
        exact ⟨_, _, still, .inr ⟨found, fresh, _, rfl, rfl, rfl, rfl, picked_room_free tenantId agentId s.db⟩⟩
  exact get_db_session_alone (Housed tenantId agentId s.db) houses

-- Calls one after the other, each in a transaction of its own.
def allocateEach (tenantId : Nat) : List Nat → Route Unit
  | [] => return ()
  | agentId :: rest => do
      let _ ← getDbSession (ensureAssignment tenantId agentId)
      allocateEach tenantId rest

theorem list_assignments_insert (tenantId id : Nat) (row : AgentRoomAssignment) (db : Db)
    (fresh : db.lookup (.roomAssignment id) = none) (tenant : row.tenantId = tenantId) (active : row.releasedAt = none) :
    listAssignments tenantId (db.insert (.roomAssignment id) row) = (id, row) :: listAssignments tenantId db := by
  have absent : Key.roomAssignment id ∉ db := AList.lookup_eq_none.mp fresh
  have entries : Db.roomAssignments (db.insert (.roomAssignment id) row) = (id, row) :: db.roomAssignments := by
    rw [Db.roomAssignments, AList.entries_insert_of_notMem absent]
    rfl
  rw [listAssignments, entries, List.filter_cons, if_pos (by simp [tenant, active])]
  rfl

variable {count : Nat}

-- With the first slots taken and no others, the next one is free.
theorem lowest_free_slot_range {occupied : List Nat} (filled : occupied.Perm (List.range count)) :
    lowestFreeSlot occupied = count := by
  obtain ⟨free, before⟩ := lowest_free_slot_free occupied
  have member (slot : Nat) : slot ∈ occupied ↔ slot < count := by rw [filled.mem_iff, List.mem_range]
  rcases Nat.lt_trichotomy (lowestFreeSlot occupied) count with less | same | more
  · exact absurd ((member _).mpr less) free
  · exact same
  · exact absurd ((member count).mp (before count more)) (Nat.lt_irrefl count)

-- Before the remaining calls: the first slots are taken, and none by the agents to come.
structure Filling (tenantId count : Nat) (agents : List Nat) (db : Db) (nextId : Nat) : Prop where
  below : ∀ id, nextId ≤ id → db.lookup (.roomAssignment id) = none
  filled : (occupiedSlots tenantId db).Perm (List.range count)
  unhoused : ∀ held ∈ listAssignments tenantId db, held.2.agentId ∉ agents
  known : ∀ agentId ∈ agents, (db.agent agentId).isSome = true
  apart : agents.Nodup

theorem filling_step {rest : List Nat} {db : Db} {nextId : Nat} (filling : Filling tenantId count (agentId :: rest) db nextId) :
    Filling tenantId (count + 1) rest
      (db.insert (.roomAssignment nextId) (newAssignment tenantId agentId (occupiedSlots tenantId db))) (nextId + 1) := by
  have fresh := filling.below nextId (Nat.le_refl nextId)
  have listed := list_assignments_insert tenantId nextId (newAssignment tenantId agentId (occupiedSlots tenantId db)) db fresh rfl rfl
  obtain ⟨notLater, apart⟩ := List.nodup_cons.mp filling.apart
  constructor
  · intro id later
    have different : Key.roomAssignment id ≠ .roomAssignment nextId := by
      intro same
      cases same
      omega
    rw [AList.lookup_insert_ne different]
    exact filling.below id (by omega)
  · have slot : roomToSlot (newAssignment tenantId agentId (occupiedSlots tenantId db)).floor
        (newAssignment tenantId agentId (occupiedSlots tenantId db)).roomIndex = count :=
      (slot_of_picked _).trans (lowest_free_slot_range filling.filled)
    rw [occupiedSlots, listed, List.map_cons, slot, List.range_succ]
    exact (filling.filled.cons count).trans (List.perm_append_singleton count (List.range count)).symm
  · intro held member later
    rw [listed] at member
    rcases List.mem_cons.mp member with rfl | old
    · exact notLater later
    · exact filling.unhoused held old (List.mem_cons_of_mem agentId later)
  · intro other later
    have elsewhere : Key.agent other ≠ .roomAssignment nextId := by
      intro same
      cases same
    rw [Db.agent, AList.lookup_insert_ne elsewhere]
    exact filling.known other (List.mem_cons_of_mem agentId later)
  · exact apart

theorem allocate_each_fills {pid : Nat} (tenantId count : Nat) (agents : List Nat) (db : Db) (nextId : Nat) (s : Sys)
    (filling : Filling tenantId count agents db nextId) (alone : Alone pid db db nextId s) :
    Solo pid (fun _ t => (occupiedSlots tenantId t.db).Perm (List.range (count + agents.length)))
      (fun _ _ => False) (allocateEach tenantId agents) s := by
  induction agents generalizing count db nextId s with
  | nil =>
      refine finishes_pure _ s ?_
      rw [alone.db]
      exact filling.filled
  | cons agentId rest ih =>
      have unhoused : getAssignment tenantId agentId db = none := by
        refine List.find?_eq_none.mpr (fun held member owns => ?_)
        exact filling.unhoused held member (by simp [of_decide_eq_true owns])
      have allocates : Solo pid
          (fun _ t => ∃ after next, Filling tenantId (count + 1) rest after next ∧ Alone pid after db next t)
          (fun _ _ => False) (ensureAssignment tenantId agentId) s := by
        refine finishes_weaken (ensure_assignment_allocates (filling.below nextId (Nat.le_refl nextId)) unhoused
          (filling.known agentId List.mem_cons_self) alone) ?_ (fun _ _ raised => raised)
        intro answer t holds
        exact ⟨_, _, filling_step filling, holds.2⟩
      refine finishes_bind _ (get_db_session_commits (fun _ => Filling tenantId (count + 1) rest) allocates) (fun answer t holds => ?_)
      obtain ⟨after, next, fillingAfter, aloneAfter⟩ := holds
      have ends := ih (count + 1) after next t fillingAfter aloneAfter
      rw [Nat.add_right_comm] at ends
      exact ends

theorem room_slots_arithmetic :
    (∀ slot, 0 ≤ slot → ∃ floor roomIndex, Rooms.slotToRoom slot = .ok (floor, roomIndex) ∧ Rooms.IsRoom floor roomIndex ∧
      Rooms.roomToSlot floor roomIndex = slot) ∧
    (∀ floor roomIndex, Rooms.IsRoom floor roomIndex → 0 ≤ Rooms.roomToSlot floor roomIndex ∧
      Rooms.slotToRoom (Rooms.roomToSlot floor roomIndex) = .ok (floor, roomIndex)) ∧
    (∀ occupied : Finset Int, IsLeast {slot | 0 ≤ slot ∧ slot ∉ occupied} (Rooms.lowestFreeSlot occupied)) ∧
    (∀ tenantId agentId db, Rooms.slotToRoom (Rooms.lowestFreeSlot ((occupiedSlots tenantId db).map Int.ofNat).toFinset) =
      .ok (((newAssignment tenantId agentId (occupiedSlots tenantId db)).floor : Int),
        ((newAssignment tenantId agentId (occupiedSlots tenantId db)).roomIndex : Int))) ∧
    (∀ tenantId agentId db, ∀ held ∈ listAssignments tenantId db,
      ((newAssignment tenantId agentId (occupiedSlots tenantId db)).floor,
        (newAssignment tenantId agentId (occupiedSlots tenantId db)).roomIndex) ≠ (held.2.floor, held.2.roomIndex)) ∧
    (∀ tenantId agentId pid s, Calm s → Below s.db s.nextId → (s.db.agent agentId).isSome = true →
      Completes machine pid anyChoice (fun result t => Housed tenantId agentId s.db result t.db)
        (getDbSession (ensureAssignment tenantId agentId)).run s) ∧
    ∀ tenantId agents pid s, Calm s → Below s.db s.nextId → agents.Nodup →
      (∀ agentId ∈ agents, (s.db.agent agentId).isSome = true) → listAssignments tenantId s.db = [] →
      Completes machine pid anyChoice
        (fun result t => result = .ok () ∧ (occupiedSlots tenantId t.db).Perm (List.range agents.length))
        (allocateEach tenantId agents).run s := by
  refine ⟨Rooms.slot_to_room_found, Rooms.room_to_slot_found, Rooms.lowest_free_slot_least,
    fun tenantId agentId db => picked_room_agrees tenantId agentId (occupiedSlots tenantId db), picked_room_free,
    ensure_assignment_houses, ?_⟩
  intro tenantId agents pid s calm below apart known empty
  have filling : Filling tenantId 0 agents s.db s.nextId := by
    refine ⟨fun id later => below_absent s.db s.nextId below (.roomAssignment id) id rfl later, ?_, ?_, known, apart⟩
    · rw [occupiedSlots, empty]
      exact .refl _
    · simp [empty]
  refine completes_weaken ?_ _ s (allocate_each_fills tenantId 0 agents s.db s.nextId s filling (calm_poised s calm pid).alone)
  intro result t ends
  cases result with
  | ok value =>
      have filled : (occupiedSlots tenantId t.db).Perm (List.range (0 + agents.length)) := ends
      rw [Nat.zero_add] at filled
      exact ⟨rfl, filled⟩
  | error failure => exact ends.elim

namespace Sample

def threeAgents : Db :=
  (((∅ : Db).insert (.agent 1) ⟨1, "AGT-RESEARCH", "Research", .active, none⟩).insert
    (.agent 2) ⟨1, "AGT-REVIEW", "Review", .active, none⟩).insert (.agent 3) ⟨1, "AGT-WRITER", "Writer", .draft, none⟩

def emptyBuilding : Sys := { server := { db := threeAgents }, nextId := 10 }

end Sample

theorem three_agents_fill_the_first_slots :
    Completes machine 0 anyChoice (fun result t => result = .ok () ∧ (occupiedSlots 1 t.db).Perm [0, 1, 2])
      (allocateEach 1 [1, 2, 3]).run Sample.emptyBuilding := by
  have orderly : Orderly Sample.emptyBuilding :=
    orderly_of_rows Sample.threeAgents 10 (by decide +kernel) (by decide +kernel) rfl
  exact room_slots_arithmetic.2.2.2.2.2.2 1 [1, 2, 3] 0 Sample.emptyBuilding orderly.toCalm orderly.below (by decide)
    (by decide +kernel) rfl

end AiWorld.Api
