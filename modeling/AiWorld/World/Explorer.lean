import AiWorld.World.Footprints

set_option autoImplicit false

namespace AiWorld.World

open AiWorld.Projects

variable {others projects : List WorldProject}

structure FootCache where
  signature : String := ""
  list : List (Footprint ℚ) := []
  doors : List Door := []
deriving DecidableEq

-- Whether it recomputed, and the cache after it; `none` when the call throws.
def FootCache.syncFootprints (footCache : FootCache) (projects : List WorldProject) (lotOf : LotMap) : Option (Bool × FootCache) :=
  let signature := projectSignature projects
  if signature = footCache.signature then some (false, footCache)
  else do
    let list ← footprints projects lotOf
    let doors ← buildingDoors projects lotOf
    return (true, ⟨signature, list, doors⟩)

def lotsOf (projects : List WorldProject) : LotMap := assignLots (projects.map WorldProject.id)

def syncAll (footCache : FootCache) (calls : List (List WorldProject)) : Option FootCache :=
  calls.foldlM (fun cache projects => (cache.syncFootprints projects (lotsOf projects)).map Prod.snd) footCache

-- No separator of the signature occurs in a project's own texts.
structure Plain (project : WorldProject) : Prop where
  idColon : ':' ∉ project.id.toList
  idBar : '|' ∉ project.id.toList
  codeColon : ':' ∉ project.code.toList
  codeBar : '|' ∉ project.code.toList

theorem label_injective {project : WorldProject} (other : WorldProject) (plain : Plain project)
    (same : project.id ++ ":" ++ project.code = other.id ++ ":" ++ other.code) :
    project.id = other.id ∧ project.code = other.code := by
  have letters : project.id.toList ++ ':' :: project.code.toList = other.id.toList ++ ':' :: other.code.toList := by
    simpa using congrArg String.toList same
  obtain ⟨ids, -, codes⟩ := (List.append_cons_inj_of_notMem plain.idColon plain.codeColon).mp letters
  exact ⟨String.toList_inj.mp ids, String.toList_inj.mp codes⟩

theorem signature_empty (projects : List WorldProject) : projectSignature projects = "" ↔ projects = [] := by
  cases projects with
  | nil => simp [projectSignature]
  | cons project rest =>
      have colon : ':' ∈ (projectSignature (project :: rest)).toList := by
        cases rest <;> simp [projectSignature]
      constructor
      · intro empty
        rw [empty] at colon
        cases colon
      · intro empty
        cases empty

theorem signature_labels (plain : ∀ project ∈ projects, Plain project) (some_listed : projects ≠ []) :
    (projectSignature projects).toList.splitOn '|' =
      projects.map (fun project => (project.id ++ ":" ++ project.code).toList) := by
  rw [projectSignature, String.toList_intercalate, List.map_map]
  refine List.splitOn_intercalate '|' ?_ (by simpa using some_listed)
  intro letters listed
  obtain ⟨project, member, rfl⟩ := List.mem_map.mp listed
  have free := plain project member
  simp [free.idBar, free.codeBar]

-- The signature tells which ids are listed, in which order.
theorem signature_ids (others : List WorldProject) (plain : ∀ project ∈ projects, Plain project)
    (plainOthers : ∀ project ∈ others, Plain project) (same : projectSignature projects = projectSignature others) :
    projects.map WorldProject.id = others.map WorldProject.id := by
  by_cases empty : projects = []
  · subst empty
    rw [(signature_empty others).mp same.symm]
  · have otherEmpty : others ≠ [] := by
      rintro rfl
      exact empty ((signature_empty projects).mp same)
    have labels : projects.map (fun project => (project.id ++ ":" ++ project.code).toList) =
        others.map (fun project => (project.id ++ ":" ++ project.code).toList) := by
      rw [← signature_labels plain empty, same, signature_labels plainOthers otherEmpty]
    clear same empty otherEmpty
    induction projects generalizing others with
    | nil => cases others with
      | nil => rfl
      | cons other others => cases labels
    | cons project projects ih => cases others with
      | nil => cases labels
      | cons other others =>
          obtain ⟨first, rest⟩ := List.cons.inj labels
          have ids := (label_injective other (plain project (by simp)) (String.toList_inj.mp first)).1
          rw [List.map_cons, List.map_cons, ids, ih others (fun listed member => plain listed (by simp [member]))
            (fun listed member => plainOthers listed (by simp [member])) rest]

variable {α : Type}

theorem buildings_of_ids (place : String → Vec2 ℚ → BuildingSpec → α) (lotOf : LotMap)
    (same : projects.map WorldProject.id = others.map WorldProject.id) :
    buildings place projects lotOf = buildings place others lotOf := by
  have byId : ∀ list : List WorldProject, list.mapM (buildingAt place lotOf) =
      (list.map WorldProject.id).mapM (fun id => buildingAt place lotOf ⟨id, "", ""⟩) := by
    intro list
    rw [List.mapM_map]
    rfl
  unfold buildings
  rw [byId projects, byId others, same]

theorem lot_exists {lotIndex : Nat} (below : lotIndex < lotCount) :
    ∃ slot, (allLotSlots : List (LotSlot ℚ))[lotIndex]? = some slot :=
  ⟨_, List.getElem?_eq_getElem (by simpa [allLotSlots, streetCount, lotsPerStreet, lotCount, List.range_succ] using below)⟩

theorem buildings_exist (place : String → Vec2 ℚ → BuildingSpec → α) (projects : List WorldProject) {lotOf : LotMap}
    (below : ∀ id lotIndex, lotOf.lookup id = some lotIndex → lotIndex < lotCount) :
    ∃ list, buildings place projects lotOf = some list := by
  have placed : ∃ list, projects.mapM (buildingAt place lotOf) = some list := by
    induction projects with
    | nil => exact ⟨[], rfl⟩
    | cons project projects ih =>
        obtain ⟨rest, later⟩ := ih
        have first : ∃ building, buildingAt place lotOf project = some building := by
          unfold buildingAt
          split
          · exact ⟨none, rfl⟩
          · rename_i lotIndex given
            obtain ⟨slot, stored⟩ := lot_exists (below project.id lotIndex given)
            simp [stored]
        obtain ⟨building, found⟩ := first
        exact ⟨building :: rest, by simp [List.mapM_cons, found, later]⟩
  obtain ⟨list, found⟩ := placed
  exact ⟨_, by rw [buildings, found]; rfl⟩

theorem lots_below (projects : List WorldProject) (id : String) (lotIndex : Nat)
    (given : (lotsOf projects).lookup id = some lotIndex) : lotIndex < lotCount :=
  (assign_lots_allots hashString (projects.map WorldProject.id)).below id lotIndex given

-- The cache holds what a fresh computation for these projects gives.
structure Fresh (projects : List WorldProject) (cache : FootCache) : Prop where
  signature : cache.signature = projectSignature projects
  list : footprints projects (lotsOf projects) = some cache.list
  doors : buildingDoors projects (lotsOf projects) = some cache.doors

theorem fresh_of_ids {cache : FootCache} (same : projects.map WorldProject.id = others.map WorldProject.id)
    (signatures : projectSignature projects = projectSignature others) (fresh : Fresh projects cache) : Fresh others cache := by
  have lots : lotsOf projects = lotsOf others := by rw [lotsOf, lotsOf, same]
  refine ⟨fresh.signature.trans signatures, ?_, ?_⟩
  · rw [← fresh.list, lots, footprints, footprints, buildings_of_ids footprintOf _ same]
  · rw [← fresh.doors, lots, buildingDoors, buildingDoors, buildings_of_ids doorOf _ same]

theorem recompute (projects : List WorldProject) (cache : FootCache) (changed : projectSignature projects ≠ cache.signature) :
    ∃ later, cache.syncFootprints projects (lotsOf projects) = some (true, later) ∧ Fresh projects later := by
  obtain ⟨rectangles, first⟩ := buildings_exist footprintOf projects (lots_below projects)
  obtain ⟨doors, second⟩ := buildings_exist doorOf projects (lots_below projects)
  refine ⟨⟨projectSignature projects, residenceFootprint :: hallFootprint :: rectangles, doors⟩, ?_, rfl, ?_, second⟩
  · simp [FootCache.syncFootprints, changed, footprints, first, buildingDoors, second]
  · simp [footprints, first]

-- What the cache holds after some calls, the last one with `projects`.
def Synced (calls : List (List WorldProject)) (projects : List WorldProject) (cache : FootCache) : Prop :=
  ((∀ call ∈ calls, call = []) ∧ cache = {}) ∨ ((∃ call ∈ calls, call ≠ []) ∧ Fresh projects cache)

theorem sync_synced {calls : List (List WorldProject)} {previous : List WorldProject} {cache : FootCache}
    (plain : ∀ project ∈ projects, Plain project) (plainPrevious : ∀ project ∈ previous, Plain project)
    (synced : Synced calls previous cache) :
    ∃ recomputed later, cache.syncFootprints projects (lotsOf projects) = some (recomputed, later) ∧
      Synced (calls ++ [projects]) projects later := by
  by_cases same : projectSignature projects = cache.signature
  · refine ⟨false, cache, by simp [FootCache.syncFootprints, same], ?_⟩
    rcases synced with ⟨empty, rfl⟩ | ⟨⟨call, listed, filled⟩, fresh⟩
    · refine Or.inl ⟨?_, rfl⟩
      intro call listed
      rcases List.mem_append.mp listed with earlier | last
      · exact empty call earlier
      · rw [List.mem_singleton.mp last]
        exact (signature_empty projects).mp same
    · refine Or.inr ⟨⟨call, by simp [listed], filled⟩, ?_⟩
      have signatures := (same.trans fresh.signature).symm
      exact fresh_of_ids (signature_ids projects plainPrevious plain signatures) signatures fresh
  · obtain ⟨later, computed, fresh⟩ := recompute projects cache same
    refine ⟨true, later, computed, ?_⟩
    by_cases filled : projects = []
    · rcases synced with ⟨empty, rfl⟩ | ⟨⟨call, listed, nonempty⟩, -⟩
      · exact absurd ((signature_empty projects).mpr filled) same
      · exact Or.inr ⟨⟨call, by simp [listed], nonempty⟩, fresh⟩
    · exact Or.inr ⟨⟨projects, by simp, filled⟩, fresh⟩

theorem sync_all_synced (later earlier : List (List WorldProject)) (previous : List WorldProject) (cache : FootCache)
    (plain : ∀ call ∈ later, ∀ project ∈ call, Plain project) (plainPrevious : ∀ project ∈ previous, Plain project)
    (synced : Synced earlier previous cache) :
    ∃ final, syncAll cache later = some final ∧ Synced (earlier ++ later) (later.getLast?.getD previous) final := by
  induction later generalizing earlier previous cache with
  | nil => exact ⟨cache, rfl, by simpa using synced⟩
  | cons call later ih =>
      have plainCall := plain call (by simp)
      obtain ⟨recomputed, next, step, nextSynced⟩ := sync_synced plainCall plainPrevious synced
      obtain ⟨final, rest, finalSynced⟩ := ih (earlier ++ [call]) call next (fun other listed => plain other (by simp [listed]))
        plainCall nextSynced
      refine ⟨final, ?_, ?_⟩
      · rw [syncAll, List.foldlM_cons, step]
        exact rest
      · rw [List.append_assoc] at finalSynced
        simpa [List.getLast?_cons] using finalSynced

theorem footprints_current_iff (earlier : List (List WorldProject)) (projects : List WorldProject)
    (plain : ∀ call ∈ earlier ++ [projects], ∀ project ∈ call, Plain project) :
    ∃ cache, syncAll {} (earlier ++ [projects]) = some cache ∧
      ((footprints projects (lotsOf projects) = some cache.list ∧ buildingDoors projects (lotsOf projects) = some cache.doors) ↔
        ∃ call ∈ earlier ++ [projects], call ≠ []) := by
  have start : Synced [] [] {} := Or.inl ⟨by simp, rfl⟩
  obtain ⟨cache, synced, current⟩ := sync_all_synced (earlier ++ [projects]) [] [] {} plain (by simp) start
  refine ⟨cache, synced, ?_⟩
  rw [List.nil_append, List.getLast?_concat, Option.getD_some] at current
  rcases current with ⟨empty, rfl⟩ | ⟨filled, fresh⟩
  · have none_listed : projects = [] := empty projects (by simp)
    subst none_listed
    constructor
    · rintro ⟨list, -⟩
      simp [footprints, buildings] at list
    · rintro ⟨call, listed, filled⟩
      exact absurd (empty call listed) filled
  · exact ⟨fun _ => filled, fun _ => ⟨fresh.list, fresh.doors⟩⟩

namespace Sample

def north : WorldProject := ⟨"north", "NORTH", "active"⟩

theorem north_plain : Plain north := ⟨by decide, by decide, by decide, by decide⟩

end Sample

theorem footprints_current_once_listed :
    ∃ cache, syncAll {} [[], [Sample.north]] = some cache ∧
      footprints [Sample.north] (lotsOf [Sample.north]) = some cache.list ∧
      buildingDoors [Sample.north] (lotsOf [Sample.north]) = some cache.doors := by
  obtain ⟨cache, synced, current⟩ := footprints_current_iff [[]] [Sample.north] (by simpa using Sample.north_plain)
  exact ⟨cache, synced, current.mpr ⟨[Sample.north], by simp, by simp⟩⟩

-- Before a project is listed, the residence and the hall stand in nobody's way.
theorem footprints_missing_without_projects :
    syncAll {} [[]] = some {} ∧
      footprints [] (lotsOf []) = some [residenceFootprint, hallFootprint] ∧ ({} : FootCache).list = [] := by
  decide +kernel

end AiWorld.World
