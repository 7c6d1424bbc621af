import Mathlib.Data.Finset.Card
import Mathlib.Data.List.AList

set_option autoImplicit false

namespace AiWorld.Probing

variable {size : Nat}

-- The slots tried from a home slot on, once around.
def probes (size home : Nat) : List Nat := (List.range size).map (fun probe => (home + probe) % size)

theorem mem_probes (home slot : Nat) (positive : 0 < size) : slot ∈ probes size home ↔ slot < size := by
  simp only [probes, List.mem_map, List.mem_range]
  constructor
  · rintro ⟨probe, -, rfl⟩
    exact Nat.mod_lt _ positive
  · intro below
    refine ⟨(slot + (size - home % size)) % size, Nat.mod_lt _ positive, ?_⟩
    have less : home % size < size := Nat.mod_lt _ positive
    have split : home = size * (home / size) + home % size := (Nat.div_add_mod home size).symm
    have around : home + (slot + (size - home % size)) = slot + size * (home / size + 1) := by
      rw [Nat.mul_succ]
      omega
    rw [Nat.add_mod_mod, around, Nat.add_mul_mod_self_left, Nat.mod_eq_of_lt below]

theorem probes_exhausted (home : Nat) (taken : Nat → Bool) (positive : 0 < size) :
    (probes size home).find? (fun slot => !taken slot) = none ↔ ∀ slot < size, taken slot = true := by
  simp [List.find?_eq_none, mem_probes home _ positive]

theorem probes_found {home slot : Nat} (taken : Nat → Bool)
    (found : (probes size home).find? (fun slot => !taken slot) = some slot) :
    ∃ probe < size, slot = (home + probe) % size ∧ taken slot = false ∧
      ∀ earlier < probe, taken ((home + earlier) % size) = true := by
  simp only [probes, List.find?_map, Option.map_eq_some_iff, List.find?_range_eq_some, List.mem_range] at found
  obtain ⟨probe, ⟨free, below, before⟩, rfl⟩ := found
  refine ⟨probe, below, rfl, by simpa using free, ?_⟩
  intro earlier less
  simpa using before earlier less

section Pigeonhole

variable {α : Type} [DecidableEq α] (held : AList (fun _ : α => Nat)) (size : Nat)

-- Keys that hold slots of their own fill them exactly when there is a key for each.
theorem full_iff (below : ∀ key slot, held.lookup key = some slot → slot < size)
    (apart : ∀ key other slot, held.lookup key = some slot → held.lookup other = some slot → key = other) :
    (∀ slot < size, ∃ key, held.lookup key = some slot) ↔ held.keys.length = size := by
  have lookup_slot : ∀ key ∈ held.keys, held.lookup key = some ((held.lookup key).getD 0) := by
    intro key listed
    obtain ⟨slot, given⟩ := Option.isSome_iff_exists.mp (AList.lookup_isSome.mpr (AList.mem_keys.mpr listed))
    simp [given]
  have mem_slots : ∀ slot, slot ∈ (held.keys.map (fun key => (held.lookup key).getD 0)).toFinset ↔
      ∃ key, held.lookup key = some slot := by
    intro slot
    simp only [List.mem_toFinset, List.mem_map]
    constructor
    · rintro ⟨key, listed, rfl⟩
      exact ⟨key, lookup_slot key listed⟩
    · rintro ⟨key, given⟩
      refine ⟨key, AList.mem_keys.mp (AList.lookup_isSome.mp (by simp [given])), by simp [given]⟩
  have card_slots : (held.keys.map (fun key => (held.lookup key).getD 0)).toFinset.card = held.keys.length := by
    rw [List.toFinset_card_of_nodup, List.length_map]
    refine List.Nodup.map_on ?_ held.keys_nodup
    intro key listed other otherListed same
    exact apart key other _ (lookup_slot key listed) (by rw [same]; exact lookup_slot other otherListed)
  have within : (held.keys.map (fun key => (held.lookup key).getD 0)).toFinset ⊆ Finset.range size := by
    intro slot member
    obtain ⟨key, given⟩ := (mem_slots slot).mp member
    exact Finset.mem_range.mpr (below key slot given)
  constructor
  · intro full
    have same : (held.keys.map (fun key => (held.lookup key).getD 0)).toFinset = Finset.range size := by
      refine Finset.Subset.antisymm within ?_
      intro slot inRange
      exact (mem_slots slot).mpr (full slot (Finset.mem_range.mp inRange))
    rw [← card_slots, same, Finset.card_range]
  · intro counted slot less
    have same := Finset.eq_of_subset_of_card_le within (by rw [card_slots, counted, Finset.card_range])
    exact (mem_slots slot).mp (by rw [same]; exact Finset.mem_range.mpr less)

end Pigeonhole

end AiWorld.Probing
