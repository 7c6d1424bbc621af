import Mathlib.Data.Finset.Card
import Mathlib.Order.Bounds.Basic
import Mathlib.Order.Interval.Finset.Defs

set_option autoImplicit false

namespace AiWorld.Rooms

def roomsPerFloor : Int := 4

def slotToRoom (slot : Int) : Except String (Int × Int) :=
  if slot < 0 then .error "slot must be >= 0" else .ok (slot / roomsPerFloor + 1, slot % roomsPerFloor + 1)

def roomToSlot (floor roomIndex : Int) : Int := (floor - 1) * roomsPerFloor + (roomIndex - 1)

theorem remaining_decreases (occupied : Finset Int) (slot : Int) (taken : slot ∈ occupied) :
    (occupied.filter (fun later => slot + 1 ≤ later)).card < (occupied.filter (fun later => slot ≤ later)).card := by
  refine Finset.card_lt_card ((Finset.ssubset_iff_of_subset ?_).mpr ⟨slot, ?_, ?_⟩)
  · intro later member
    obtain ⟨present, beyond⟩ := Finset.mem_filter.mp member
    exact Finset.mem_filter.mpr ⟨present, by omega⟩
  · exact Finset.mem_filter.mpr ⟨taken, Int.le_refl slot⟩
  · intro member
    have beyond := (Finset.mem_filter.mp member).2
    omega

-- The loop of `lowest_free_slot`: every turn leaves one occupied slot behind.
def searchFrom (occupied : Finset Int) (slot : Int) : Int :=
  if slot ∈ occupied then searchFrom occupied (slot + 1) else slot
termination_by (occupied.filter (fun later => slot ≤ later)).card
decreasing_by exact remaining_decreases occupied slot (by assumption)

def lowestFreeSlot (occupied : Finset Int) : Int := searchFrom occupied 0

-- A pair that names a room.
structure IsRoom (floor roomIndex : Int) : Prop where
  floor : 1 ≤ floor
  first : 1 ≤ roomIndex
  last : roomIndex ≤ 4

theorem slot_to_room_found (slot : Int) (natural : 0 ≤ slot) :
    ∃ floor roomIndex, slotToRoom slot = .ok (floor, roomIndex) ∧ IsRoom floor roomIndex ∧ roomToSlot floor roomIndex = slot := by
  have inside : ¬ slot < 0 := by omega
  refine ⟨slot / roomsPerFloor + 1, slot % roomsPerFloor + 1, if_neg inside, ⟨?_, ?_, ?_⟩, ?_⟩ <;>
  · simp only [roomToSlot, roomsPerFloor]
    omega

theorem room_to_slot_found (floor roomIndex : Int) (room : IsRoom floor roomIndex) :
    0 ≤ roomToSlot floor roomIndex ∧ slotToRoom (roomToSlot floor roomIndex) = .ok (floor, roomIndex) := by
  obtain ⟨above, first, last⟩ := room
  have natural : 0 ≤ roomToSlot floor roomIndex := by
    simp only [roomToSlot, roomsPerFloor]
    omega
  have inside : ¬ roomToSlot floor roomIndex < 0 := by omega
  have sameFloor : roomToSlot floor roomIndex / roomsPerFloor + 1 = floor := by
    simp only [roomToSlot, roomsPerFloor]
    omega
  have sameIndex : roomToSlot floor roomIndex % roomsPerFloor + 1 = roomIndex := by
    simp only [roomToSlot, roomsPerFloor]
    omega
  refine ⟨natural, ?_⟩
  rw [slotToRoom, if_neg inside, sameFloor, sameIndex]

theorem search_from_least (occupied : Finset Int) (slot : Int) :
    IsLeast {free | slot ≤ free ∧ free ∉ occupied} (searchFrom occupied slot) := by
  fun_induction searchFrom occupied slot with
  | case1 slot taken ih =>
      obtain ⟨⟨beyond, free⟩, least⟩ := ih
      refine ⟨⟨by omega, free⟩, fun other above => ?_⟩
      have different : other ≠ slot := fun same => above.2 (same ▸ taken)
      have onward : slot ≤ other := above.1
      exact least ⟨by omega, above.2⟩
  | case2 slot free => exact ⟨⟨Int.le_refl slot, free⟩, fun other above => above.1⟩

theorem lowest_free_slot_least (occupied : Finset Int) :
    IsLeast {slot | 0 ≤ slot ∧ slot ∉ occupied} (lowestFreeSlot occupied) := search_from_least occupied 0

end AiWorld.Rooms
