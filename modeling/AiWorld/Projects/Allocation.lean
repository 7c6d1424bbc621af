import AiWorld.Containers.Probing
import AiWorld.Projects.Lots

set_option autoImplicit false

namespace AiWorld.Projects

variable {id : String} {ids : List String} {lots : Lots} {lot : Nat}

variable (hash : String → Nat)

theorem erase_dups_repeated (listed : id ∈ ids) : (ids ++ [id]).eraseDups = ids.eraseDups := by
  simp [List.eraseDups_append, List.removeAll, listed]

theorem erase_dups_fresh (fresh : id ∉ ids) : (ids ++ [id]).eraseDups = ids.eraseDups ++ [id] := by
  simp [List.eraseDups_append, List.removeAll, fresh, List.eraseDups_cons]

-- What the allocator knows once it has gone through `ids`.
structure Allotted (ids : List String) (lots : Lots) : Prop where
  keys : lots.assigned.keys = (ids.eraseDups.take lotCount).reverse
  below : ∀ id lot, lots.assigned.lookup id = some lot → lot < lotCount
  apart : ∀ id other lot, lots.assigned.lookup id = some lot → lots.assigned.lookup other = some lot → id = other
  taken : ∀ lot, lots.taken lot = true ↔ ∃ id, lots.assigned.lookup id = some lot

namespace Allotted

variable {hash} {ids : List String} {lots : Lots} (allotted : Allotted ids lots)

include allotted

theorem mem_iff (id : String) : (lots.assigned.lookup id).isSome ↔ id ∈ ids.eraseDups.take lotCount := by
  rw [AList.lookup_isSome, AList.mem_keys, allotted.keys, List.mem_reverse]

theorem full_iff : (∀ lot < lotCount, lots.taken lot = true) ↔ lotCount ≤ ids.eraseDups.length := by
  have counted := Probing.full_iff lots.assigned lotCount allotted.below allotted.apart
  simp only [allotted.keys, List.length_reverse, List.length_take] at counted
  simp only [allotted.taken, counted]
  omega

-- Not listed among the first ones and not full: not listed at all.
theorem fresh_of_free (id : String) (unassigned : ¬ (lots.assigned.lookup id).isSome)
    (free : ids.eraseDups.length < lotCount) : id ∉ ids := by
  intro listed
  apply unassigned
  rw [allotted.mem_iff, List.take_of_length_le (Nat.le_of_lt free)]
  exact List.mem_eraseDups.mpr listed

theorem full_of_exhausted (home : Nat) (none_free : (probes home).find? (fun lot => !lots.taken lot) = none) :
    lotCount ≤ ids.eraseDups.length :=
  allotted.full_iff.mp ((Probing.probes_exhausted home lots.taken (by decide)).mp none_free)

theorem free_of_found (home lot : Nat) (found : (probes home).find? (fun lot => !lots.taken lot) = some lot) :
    ids.eraseDups.length < lotCount := by
  obtain ⟨probe, -, place, free, -⟩ := Probing.probes_found lots.taken found
  by_contra full
  have taken := allotted.full_iff.mpr (Nat.le_of_not_lt full) lot (by rw [place]; exact Nat.mod_lt _ (by decide))
  rw [free] at taken
  cases taken

theorem unchanged (id : String) (same : (ids ++ [id]).eraseDups.take lotCount = ids.eraseDups.take lotCount) :
    Allotted (ids ++ [id]) lots :=
  ⟨by rw [same]; exact allotted.keys, allotted.below, allotted.apart, allotted.taken⟩

theorem given (id : String) (lot : Nat) (unassigned : ¬ (lots.assigned.lookup id).isSome) (less : lot < lotCount)
    (free : lots.taken lot = false) (room : ids.eraseDups.length < lotCount) :
    Allotted (ids ++ [id]) ⟨lots.assigned.insert id lot, Function.update lots.taken lot true⟩ := by
  have fresh := allotted.fresh_of_free id unassigned room
  have unheld : ∀ other, lots.assigned.lookup other ≠ some lot := by
    intro other held
    have taken := (allotted.taken lot).mpr ⟨other, held⟩
    rw [free] at taken
    cases taken
  have lookup : ∀ other, (lots.assigned.insert id lot).lookup other =
      if other = id then some lot else lots.assigned.lookup other := by
    intro other
    by_cases same : other = id
    · subst same
      simp
    · simp [same, AList.lookup_insert_ne same]
  constructor
  · have absent : id ∉ lots.assigned.keys := by
      rw [← AList.mem_keys, ← AList.lookup_isSome]
      exact unassigned
    rw [AList.keys_insert, List.erase_of_not_mem absent, allotted.keys, erase_dups_fresh fresh,
      List.take_of_length_le (Nat.le_of_lt room), List.take_of_length_le (by simp; omega)]
    simp
  · intro other lot' held
    simp only [lookup] at held
    split at held
    · cases held
      exact less
    · exact allotted.below other lot' held
  · intro first second lot' held heldToo
    simp only [lookup] at held heldToo
    split at held <;> split at heldToo
    · simp_all
    · cases held
      exact absurd heldToo (unheld second)
    · cases heldToo
      exact absurd held (unheld first)
    · exact allotted.apart first second lot' held heldToo
  · intro lot'
    by_cases same : lot' = lot
    · subst same
      simp only [Function.update_self, true_iff]
      exact ⟨id, by simp⟩
    · simp only [Function.update_of_ne same, allotted.taken, lookup]
      constructor
      · rintro ⟨other, held⟩
        refine ⟨other, ?_⟩
        rw [if_neg, held]
        rintro rfl
        simp [held] at unassigned
      · rintro ⟨other, held⟩
        split at held
        · cases held
          exact absurd rfl same
        · exact ⟨other, held⟩

end Allotted

theorem allotted_start : Allotted [] {} := by
  constructor <;> simp

theorem assigns_allots (id : String) (allotted : Allotted ids lots) : Allotted (ids ++ [id]) (lots.assignsBy hash id) := by
  unfold Lots.assignsBy
  split
  · rename_i assigned
    refine allotted.unchanged id ?_
    rw [erase_dups_repeated]
    exact List.mem_eraseDups.mp (List.mem_of_mem_take ((allotted.mem_iff id).mp assigned))
  · rename_i unassigned
    split
    · rename_i exhausted
      have full := allotted.full_of_exhausted _ exhausted
      refine allotted.unchanged id ?_
      by_cases listed : id ∈ ids
      · rw [erase_dups_repeated listed]
      · rw [erase_dups_fresh listed, List.take_append_of_le_length full]
    · rename_i lot found
      obtain ⟨probe, -, place, free, -⟩ := Probing.probes_found lots.taken found
      exact allotted.given id lot unassigned (by rw [place]; exact Nat.mod_lt _ (by decide)) free
        (allotted.free_of_found _ lot found)

theorem assign_all_allots (later ids : List String) (lots : Lots) (allotted : Allotted ids lots) :
    Allotted (ids ++ later) (later.foldl (Lots.assignsBy hash) lots) := by
  induction later generalizing ids lots with
  | nil => simpa using allotted
  | cons id rest ih => simpa using ih (ids ++ [id]) (lots.assignsBy hash id) (assigns_allots hash id allotted)

theorem assign_lots_allots (ids : List String) : Allotted ids (ids.foldl (Lots.assignsBy hash) {}) :=
  assign_all_allots hash ids [] {} allotted_start

-- A listed id is left as it is: it has a lot, or none is free.
theorem assigns_repeated (allotted : Allotted ids lots) (listed : id ∈ ids) : lots.assignsBy hash id = lots := by
  unfold Lots.assignsBy
  split
  · rfl
  · rename_i unassigned
    split
    · rfl
    · rename_i lot found
      exact absurd listed (allotted.fresh_of_free id unassigned (allotted.free_of_found _ lot found))

theorem assign_lots_dups (ids : List String) :
    ids.foldl (Lots.assignsBy hash) {} = ids.eraseDups.foldl (Lots.assignsBy hash) {} := by
  induction ids using List.reverseRecOn with
  | nil => rfl
  | append_singleton ids id ih =>
      rw [List.foldl_append]
      by_cases listed : id ∈ ids
      · rw [erase_dups_repeated listed, ← ih]
        exact assigns_repeated hash (assign_lots_allots hash ids) listed
      · rw [erase_dups_fresh listed, List.foldl_append, ← ih]

-- The lot an id is given when its turn comes.
theorem assigns_first_free (unassigned : lots.assigned.lookup id = none)
    (given : (lots.assignsBy hash id).assigned.lookup id = some lot) :
    ∃ probe < lotCount, lot = (hash id % lotCount + probe) % lotCount ∧ lots.taken lot = false ∧
      ∀ earlier < probe, lots.taken ((hash id % lotCount + earlier) % lotCount) = true := by
  simp only [Lots.assignsBy, unassigned, Option.isSome_none, Bool.false_eq_true, if_false] at given
  split at given
  · rw [unassigned] at given
    cases given
  · rename_i candidate found
    rw [AList.lookup_insert] at given
    cases given
    exact Probing.probes_found lots.taken found

theorem assign_lots_keeps (earlier later : List String) (id : String) (lot : Nat)
    (given : (assignLotsBy hash earlier).lookup id = some lot) : (assignLotsBy hash (earlier ++ later)).lookup id = some lot := by
  unfold assignLotsBy at given ⊢
  rw [List.foldl_append]
  exact assign_all_keeps hash later _ id given

theorem mem_of_assigned (given : (assignLotsBy hash ids).lookup id = some lot) : id ∈ ids := by
  have among := ((assign_lots_allots hash ids).mem_iff id).mp (Option.isSome_iff_exists.mpr ⟨lot, given⟩)
  exact List.mem_eraseDups.mp (List.mem_of_mem_take among)

-- An id gets its lot in its turn or never.
theorem assigned_in_turn {before after : List String} (fresh : id ∉ before)
    (given : (assignLotsBy hash (before ++ id :: after)).lookup id = some lot) :
    (assignLotsBy hash (before ++ [id])).lookup id = some lot := by
  have regroup : before ++ id :: after = (before ++ [id]) ++ after := by simp
  have among : id ∈ (before ++ id :: after).eraseDups.take lotCount :=
    ((assign_lots_allots hash (before ++ id :: after)).mem_iff id).mp (Option.isSome_iff_exists.mpr ⟨lot, given⟩)
  have room : before.eraseDups.length < lotCount := by
    by_contra full
    rw [regroup, List.eraseDups_append, erase_dups_fresh fresh, List.append_assoc,
      List.take_append_of_le_length (Nat.le_of_not_lt full)] at among
    exact fresh (List.mem_eraseDups.mp (List.mem_of_mem_take among))
  have early : ((assignLotsBy hash (before ++ [id])).lookup id).isSome := by
    refine ((assign_lots_allots hash (before ++ [id])).mem_iff id).mpr ?_
    rw [erase_dups_fresh fresh, List.take_of_length_le (by simp; omega)]
    simp
  obtain ⟨lot', inTurn⟩ := Option.isSome_iff_exists.mp early
  have kept := assign_lots_keeps hash (before ++ [id]) after id lot' inTurn
  rw [← regroup, given] at kept
  rw [inTurn, kept]

theorem assign_lots_first_free (before after : List String) (id : String) (lot : Nat) (fresh : id ∉ before)
    (given : (assignLotsBy hash (before ++ id :: after)).lookup id = some lot) :
    ∃ probe < lotCount, lot = (hash id % lotCount + probe) % lotCount ∧
      (∀ other ∈ before, (assignLotsBy hash (before ++ id :: after)).lookup other ≠ some lot) ∧
      ∀ earlier < probe, ∃ other ∈ before, (assignLotsBy hash (before ++ id :: after)).lookup other =
        some ((hash id % lotCount + earlier) % lotCount) := by
  have allotted := assign_lots_allots hash before
  have unassigned : (before.foldl (Lots.assignsBy hash) {}).assigned.lookup id = none := by
    cases held : (before.foldl (Lots.assignsBy hash) {}).assigned.lookup id with
    | none => rfl
    | some lot' => exact absurd (mem_of_assigned hash held) fresh
  have inTurn := assigned_in_turn hash fresh given
  rw [assignLotsBy, List.foldl_append] at inTurn
  obtain ⟨probe, below, place, -, passed⟩ := assigns_first_free hash unassigned inTurn
  refine ⟨probe, below, place, ?_, ?_⟩
  · intro other earlier held
    have same := (assign_lots_allots hash (before ++ id :: after)).apart id other lot given held
    exact fresh (by rw [same]; exact earlier)
  · intro earlier less
    obtain ⟨other, held⟩ := (allotted.taken _).mp (passed earlier less)
    exact ⟨other, mem_of_assigned hash held, assign_lots_keeps hash before (id :: after) other _ held⟩

theorem assign_lots_allocates (ids : List String) :
    (∀ id lot, (assignLotsBy hash ids).lookup id = some lot → lot < 48) ∧
    (∀ id other lot, (assignLotsBy hash ids).lookup id = some lot → (assignLotsBy hash ids).lookup other = some lot →
      id = other) ∧
    (∀ id, ((assignLotsBy hash ids).lookup id).isSome ↔ id ∈ ids.eraseDups.take 48) ∧
    assignLotsBy hash ids = assignLotsBy hash ids.eraseDups ∧
    (∀ before id after lot, ids = before ++ id :: after → id ∉ before → (assignLotsBy hash ids).lookup id = some lot →
      ∃ probe < 48, lot = (hash id % 48 + probe) % 48 ∧
        (∀ other ∈ before, (assignLotsBy hash ids).lookup other ≠ some lot) ∧
        ∀ earlier < probe, ∃ other ∈ before,
          (assignLotsBy hash ids).lookup other = some ((hash id % 48 + earlier) % 48)) ∧
    ∀ later id lot, (assignLotsBy hash ids).lookup id = some lot →
      (assignLotsBy hash (ids ++ later)).lookup id = some lot := by
  have allotted := assign_lots_allots hash ids
  refine ⟨allotted.below, allotted.apart, allotted.mem_iff, ?_, ?_, ?_⟩
  · exact congrArg Lots.assigned (assign_lots_dups hash ids)
  · rintro before id after lot rfl fresh given
    exact assign_lots_first_free hash before after id lot fresh given
  · intro later id lot given
    exact assign_lots_keeps hash ids later id lot given

end AiWorld.Projects
