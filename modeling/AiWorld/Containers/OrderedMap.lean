import Mathlib.Data.List.Nodup

set_option autoImplicit false

namespace AiWorld

-- A map that is gone through in the order in which its keys were first set.
structure OrderedMap (α β : Type) where
  entries : List (α × β)
  distinct : (entries.map Prod.fst).Nodup

namespace OrderedMap

variable {α β : Type} [DecidableEq α]

def setEntry (key : α) (value : β) : List (α × β) → List (α × β)
  | [] => [(key, value)]
  | (other, old) :: rest => if other = key then (key, value) :: rest else (other, old) :: setEntry key value rest

theorem set_entry_keys (key : α) (value : β) (entries : List (α × β)) :
    (setEntry key value entries).map Prod.fst =
      if key ∈ entries.map Prod.fst then entries.map Prod.fst else entries.map Prod.fst ++ [key] := by
  induction entries with
  | nil => simp [setEntry]
  | cons entry rest ih =>
      obtain ⟨other, old⟩ := entry
      by_cases same : other = key
      · simp [setEntry, same]
      · have different : key ≠ other := fun equal => same equal.symm
        simp only [setEntry, if_neg same, List.map_cons, ih, List.mem_cons, different, false_or]
        split <;> simp

theorem set_entry_mem (key other : α) (value found : β) {entries : List (α × β)} (distinct : (entries.map Prod.fst).Nodup) :
    (other, found) ∈ setEntry key value entries ↔
      (other = key ∧ found = value) ∨ (other ≠ key ∧ (other, found) ∈ entries) := by
  induction entries with
  | nil => simp [setEntry]
  | cons entry rest ih =>
      obtain ⟨first, old⟩ := entry
      simp only [List.map_cons, List.nodup_cons] at distinct
      by_cases same : first = key
      · subst same
        simp only [setEntry, if_true, List.mem_cons, Prod.mk.injEq]
        have absent : (first, found) ∉ rest := fun member => distinct.1 (List.mem_map_of_mem member)
        by_cases equal : other = first
        · subst equal
          simp [absent]
        · simp [equal]
      · simp only [setEntry, if_neg same, List.mem_cons, Prod.mk.injEq, ih distinct.2]
        by_cases equal : other = first
        · subst equal
          simp [same]
        · simp [equal]

def empty : OrderedMap α β := ⟨[], List.nodup_nil⟩

def get (map : OrderedMap α β) (key : α) : Option β := (map.entries.find? (fun entry => entry.1 = key)).map Prod.snd

def has (map : OrderedMap α β) (key : α) : Bool := (map.get key).isSome

def set (map : OrderedMap α β) (key : α) (value : β) : OrderedMap α β :=
  ⟨setEntry key value map.entries, by
    rw [set_entry_keys]
    split
    · exact map.distinct
    · rename_i absent
      exact List.nodup_append.mpr ⟨map.distinct, by simp, by
        intro other listed last single same
        rw [List.mem_singleton.mp single] at same
        exact absent (same ▸ listed)⟩⟩

def keys (map : OrderedMap α β) : List α := map.entries.map Prod.fst

theorem get_iff (map : OrderedMap α β) (key : α) (value : β) : map.get key = some value ↔ (key, value) ∈ map.entries := by
  obtain ⟨entries, distinct⟩ := map
  induction entries with
  | nil => simp [get]
  | cons entry rest ih =>
      obtain ⟨other, old⟩ := entry
      simp only [List.map_cons, List.nodup_cons] at distinct
      have tail := ih distinct.2
      by_cases same : other = key
      · subst same
        have absent : (other, value) ∉ rest := fun member => distinct.1 (List.mem_map_of_mem member)
        simp [get, absent, eq_comm]
      · have different : key ≠ other := fun equal => same equal.symm
        simpa [get, same, different] using tail

theorem has_iff (map : OrderedMap α β) (key : α) : map.has key = true ↔ key ∈ map.keys := by
  simp only [has, Option.isSome_iff_exists, get_iff, keys, List.mem_map]
  constructor
  · rintro ⟨value, member⟩
    exact ⟨(key, value), member, rfl⟩
  · rintro ⟨⟨other, value⟩, member, rfl⟩
    exact ⟨value, member⟩

@[simp]
theorem get_set (map : OrderedMap α β) (key other : α) (value : β) :
    (map.set key value).get other = if other = key then some value else map.get other := by
  ext found
  rw [get_iff, set, set_entry_mem key other value found map.distinct]
  by_cases same : other = key
  · simp [same, eq_comm]
  · simp [same, get_iff]

theorem mem_keys_set (map : OrderedMap α β) (key other : α) (value : β) :
    other ∈ (map.set key value).keys ↔ other = key ∨ other ∈ map.keys := by
  simp only [keys, set, set_entry_keys]
  split
  · rename_i listed
    constructor
    · exact Or.inr
    · rintro (rfl | member)
      · exact listed
      · exact member
  · simp [or_comm]

end OrderedMap

end AiWorld
