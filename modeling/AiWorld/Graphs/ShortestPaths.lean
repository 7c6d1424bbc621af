import Mathlib.Algebra.Order.Monoid.Defs
import Mathlib.Logic.Function.Basic

set_option autoImplicit false

namespace AiWorld.Graphs

section Walks

variable {ν K : Type} [AddCommMonoid K]

-- A weighted graph is given by its edges, of which several may join the same two nodes.
inductive Walk (edge : ν → ν → K → Prop) (source : ν) : ν → List ν → K → Prop
  | start : Walk edge source source [source] 0
  | along {node next : ν} {path : List ν} {length weight : K} (walk : Walk edge source node path length)
      (joined : edge node next weight) : Walk edge source next (path ++ [next]) (length + weight)

def Reaches (edge : ν → ν → K → Prop) (source target : ν) : Prop := ∃ path length, Walk edge source target path length

def Shortest [LE K] (edge : ν → ν → K → Prop) (source target : ν) (path : List ν) (length : K) : Prop :=
  Walk edge source target path length ∧ ∀ other weight, Walk edge source target other weight → length ≤ weight

variable {edge : ν → ν → K → Prop} {source target : ν} {path : List ν} {length : K}

theorem walk_known (walk : Walk edge source target path length) (known : ν → Prop) (start : known source)
    (closed : ∀ node next weight, edge node next weight → known next) : ∀ node ∈ path, known node := by
  induction walk with
  | start => simpa using start
  | along walk joined ih =>
      intro node member
      rcases List.mem_append.mp member with earlier | last
      · exact ih node earlier
      · rw [List.mem_singleton.mp last]
        exact closed _ _ _ joined

theorem walk_head (walk : Walk edge source target path length) : path.head? = some source := by
  induction walk with
  | start => rfl
  | along walk joined ih => simp [List.head?_append, ih]

theorem walk_last (walk : Walk edge source target path length) : path.getLast? = some target := by
  cases walk with
  | start => rfl
  | along walk joined => simp

end Walks

-- The best lengths known so far and the node each was reached from.
structure Labels (ν K : Type) where
  dist : ν → Option K
  prev : ν → Option ν

namespace Labels

variable {ν K : Type} [DecidableEq ν] [LinearOrder K]

def improves (candidate : K) : Option K → Bool
  | none => true
  | some known => candidate < known

def relax (labels : Labels ν K) (current next : ν) (candidate : K) : Labels ν K :=
  if improves candidate (labels.dist next) then
    ⟨Function.update labels.dist next (some candidate), Function.update labels.prev next (some current)⟩
  else labels

-- Labels only get lower.
theorem relax_lowers (labels : Labels ν K) (current next : ν) (candidate : K) (node : ν) (known : K) (labelled : labels.dist node = some known) :
    ∃ lower, (labels.relax current next candidate).dist node = some lower ∧ lower ≤ known := by
  unfold relax
  split
  · rename_i better
    by_cases same : node = next
    · subst same
      simp only [labelled, improves, decide_eq_true_eq] at better
      exact ⟨candidate, by simp, better.le⟩
    · exact ⟨known, (Function.update_of_ne same _ _).trans labelled, le_refl known⟩
  · exact ⟨known, labelled, le_refl known⟩

theorem relax_reaches (labels : Labels ν K) (current next : ν) (candidate : K) :
    ∃ label, (labels.relax current next candidate).dist next = some label ∧ label ≤ candidate := by
  unfold relax
  split
  · exact ⟨candidate, by simp, le_refl candidate⟩
  · rename_i worse
    cases label : labels.dist next with
    | none => simp [label, improves] at worse
    | some known =>
        simp only [label, improves, decide_eq_true_eq, not_lt] at worse
        exact ⟨known, rfl, worse⟩

def follow [Add K] (current : ν) (bound : K) (labels : Labels ν K) (road : ν × K) : Labels ν K :=
  labels.relax current road.1 (bound + road.2)

-- Going back along the predecessors.
inductive Chain (labels : Labels ν K) (source : ν) : ν → List ν → Prop
  | start : Chain labels source source [source]
  | back {node before : ν} {path : List ν} (different : node ≠ source) (previous : labels.prev node = some before)
      (chain : Chain labels source before path) : Chain labels source node (path ++ [node])

omit [DecidableEq ν] [LinearOrder K] in
theorem chain_mem {labels : Labels ν K} {source node : ν} {path : List ν} (chain : labels.Chain source node path) :
    node ∈ path := by
  cases chain <;> simp

end Labels

section Search

variable {ν K : Type} [AddCommMonoid K] [LinearOrder K] (edge : ν → ν → K → Prop) (source : ν)

-- The tree that a search has grown: the visited nodes, the last one first.
structure Grown (visited : List ν) (labels : Labels ν K) : Prop where
  root : labels.dist source = some 0
  above : ∀ node known, labels.dist node = some known → 0 ≤ known
  reached : ∀ node ∈ visited, ∃ known, labels.dist node = some known
  linked : ∀ node known, labels.dist node = some known → node ≠ source →
    ∃ before ∈ visited, ∃ start weight, labels.prev node = some before ∧ labels.dist before = some start ∧
      edge before node weight ∧ known = start + weight
  ordered : ∀ newer node older, visited = newer ++ node :: older → node ≠ source →
    ∃ before ∈ older, labels.prev node = some before

-- The edges that leave a visited node have been followed.
def Followed (visited : List ν) (labels : Labels ν K) : Prop :=
  ∀ node ∈ visited, ∀ known next weight, labels.dist node = some known → edge node next weight →
    ∃ label, labels.dist next = some label ∧ label ≤ known + weight

-- Everything visited is at most `bound` away, everything else that is labelled at least.
structure Divided (visited : List ν) (bound : K) (labels : Labels ν K) : Prop where
  inner : ∀ node ∈ visited, ∀ known, labels.dist node = some known → known ≤ bound
  outer : ∀ node ∉ visited, ∀ known, labels.dist node = some known → bound ≤ known

structure Searched (visited : List ν) (labels : Labels ν K) : Prop where
  grown : Grown edge source visited labels
  followed : Followed edge visited labels
  divided : ∃ bound, Divided visited bound labels

variable {edge source} {visited : List ν} {labels : Labels ν K} {current : ν} {bound : K}

theorem grown_visit (grown : Grown edge source visited labels) (labelled : labels.dist current = some bound) :
    Grown edge source (current :: visited) labels := by
  refine ⟨grown.root, grown.above, ?_, ?_, ?_⟩
  · intro node member
    rcases List.mem_cons.mp member with rfl | earlier
    · exact ⟨bound, labelled⟩
    · exact grown.reached node earlier
  · intro node known label different
    obtain ⟨before, earlier, rest⟩ := grown.linked node known label different
    exact ⟨before, List.mem_cons_of_mem current earlier, rest⟩
  · intro newer node older splits different
    cases newer with
    | nil =>
        obtain ⟨rfl, rfl⟩ := List.cons.inj splits
        obtain ⟨before, earlier, start, weight, previous, -⟩ := grown.linked current bound labelled different
        exact ⟨before, earlier, previous⟩
    | cons first newer => exact grown.ordered newer node older (List.cons.inj splits).2 different

omit [AddCommMonoid K] in
theorem divided_visit (divided : ∃ bound, Divided visited bound labels) (unvisited : current ∉ visited)
    (labelled : labels.dist current = some bound)
    (nearest : ∀ node ∉ visited, ∀ known, labels.dist node = some known → bound ≤ known) :
    Divided (current :: visited) bound labels := by
  obtain ⟨previous, inner, outer⟩ := divided
  refine ⟨?_, ?_⟩
  · intro node member known label
    rcases List.mem_cons.mp member with rfl | earlier
    · rw [labelled] at label
      cases label
      exact le_refl bound
    · exact (inner node earlier known label).trans (outer current unvisited bound labelled)
  · intro node outside known label
    exact nearest node (fun earlier => outside (List.mem_cons_of_mem current earlier)) known label

theorem chain_of_visited (grown : Grown edge source visited labels) {older : List ν} (newer : List ν) (splits : visited = newer ++ older)
    (node : ν) (member : node ∈ older) (known : K) (labelled : labels.dist node = some known) :
    ∃ path, labels.Chain source node path ∧ Walk edge source node path known ∧ path.length ≤ older.length := by
  -- the predecessor of a visited node was visited before it, so it is in the rest of the list
  induction older generalizing newer node known with
  | nil => cases member
  | cons first older ih =>
      have further : visited = (newer ++ [first]) ++ older := by simp [splits]
      rcases List.mem_cons.mp member with rfl | earlier
      · by_cases same : node = source
        · subst same
          rw [grown.root] at labelled
          cases labelled
          exact ⟨[node], .start, .start, by simp⟩
        · obtain ⟨before, earlier, previous⟩ := grown.ordered newer node older splits same
          obtain ⟨parent, -, start, weight, previous', startLabel, joined, rfl⟩ := grown.linked node known labelled same
          rw [previous] at previous'
          cases previous'
          obtain ⟨path, chain, walk, short⟩ := ih (newer ++ [node]) further before earlier start startLabel
          exact ⟨path ++ [node], .back same previous chain, walk.along joined, by simpa using short⟩
      · obtain ⟨path, chain, walk, short⟩ := ih (newer ++ [first]) further node earlier known labelled
        exact ⟨path, chain, walk, Nat.le_succ_of_le short⟩

-- Every label is the length of the walk that the predecessors spell.
theorem chain_of_labelled (grown : Grown edge source visited labels) {node : ν} {known : K}
    (labelled : labels.dist node = some known) :
    ∃ path, labels.Chain source node path ∧ Walk edge source node path known ∧ path.length ≤ visited.length + 1 := by
  by_cases same : node = source
  · subst same
    rw [grown.root] at labelled
    cases labelled
    exact ⟨[node], .start, .start, by simp⟩
  · obtain ⟨before, earlier, start, weight, previous, startLabel, joined, rfl⟩ := grown.linked node known labelled same
    obtain ⟨path, chain, walk, short⟩ := chain_of_visited grown [] rfl before earlier start startLabel
    exact ⟨path ++ [node], .back same previous chain, walk.along joined, by simpa using short⟩

theorem searched_start [DecidableEq ν] : Searched edge source [] ⟨Function.update (fun _ => none) source (some 0), fun _ => none⟩ := by
  have only : ∀ node known, (Function.update (fun _ => none) source (some (0 : K))) node = some known →
      node = source ∧ known = 0 := by
    intro node known label
    by_cases same : node = source
    · subst same
      simpa [eq_comm] using label
    · simp [Function.update_of_ne same] at label
  refine ⟨⟨by simp, ?_, by simp, ?_, by simp⟩, by simp [Followed], 0, by simp, ?_⟩
  · intro node known label
    exact (only node known label).2.ge
  · intro node known label different
    exact absurd (only node known label).1 different
  · intro node _ known label
    exact (only node known label).2.ge

section Relaxing

variable [IsOrderedAddMonoid K]

-- A walk ends at a label that is no longer than it, or has left the visited nodes at one.
theorem frontier (grown : Grown edge source visited labels) (followed : Followed edge visited labels)
    (positive : ∀ node next weight, edge node next weight → 0 ≤ weight) (target : ν) (path : List ν) (length : K)
    (walk : Walk edge source target path length) :
    (∃ known, labels.dist target = some known ∧ known ≤ length) ∨
      ∃ node ∉ visited, ∃ known, labels.dist node = some known ∧ known ≤ length := by
  induction walk with
  | start => exact Or.inl ⟨0, grown.root, le_refl 0⟩
  | @along node next path length weight walk joined ih =>
      have longer : length ≤ length + weight := le_add_of_nonneg_right (positive node next weight joined)
      rcases ih with ⟨known, label, short⟩ | ⟨other, outside, known, label, short⟩
      · by_cases member : node ∈ visited
        · obtain ⟨lower, nextLabel, near⟩ := followed node member known next weight label joined
          exact Or.inl ⟨lower, nextLabel, near.trans (add_le_add_left short weight)⟩
        · exact Or.inr ⟨node, member, known, label, short.trans longer⟩
      · exact Or.inr ⟨other, outside, known, label, short.trans longer⟩

-- Only nodes outside the visited ones get a new label.
theorem improved_unvisited (grown : Grown edge source visited labels) (divided : Divided visited bound labels)
    (next : ν) (weight : K) (positive : 0 ≤ weight)
    (better : Labels.improves (bound + weight) (labels.dist next) = true) : next ∉ visited := by
  intro member
  obtain ⟨known, labelled⟩ := grown.reached next member
  have near := divided.inner next member known labelled
  have far : bound ≤ bound + weight := le_add_of_nonneg_right positive
  simp only [labelled, Labels.improves, decide_eq_true_eq] at better
  exact absurd better (not_lt.mpr (near.trans far))

variable [DecidableEq ν]

theorem relax_visited (current : ν) (grown : Grown edge source visited labels) (divided : Divided visited bound labels)
    (next : ν) (weight : K) (positive : 0 ≤ weight) (node : ν) (member : node ∈ visited) :
    (labels.relax current next (bound + weight)).dist node = labels.dist node := by
  unfold Labels.relax
  split
  · rename_i better
    have outside := improved_unvisited grown divided next weight positive better
    have different : node ≠ next := fun same => outside (same ▸ member)
    exact Function.update_of_ne different _ _
  · rfl

theorem grown_relax (grown : Grown edge source visited labels) (divided : Divided visited bound labels)
    (member : current ∈ visited) (labelled : labels.dist current = some bound) (next : ν) {weight : K}
    (positive : 0 ≤ weight) (joined : edge current next weight) :
    Grown edge source visited (labels.relax current next (bound + weight)) := by
  unfold Labels.relax
  split
  · rename_i better
    have outside := improved_unvisited grown divided next weight positive better
    have total : 0 ≤ bound + weight := add_nonneg (grown.above current bound labelled) positive
    have foreign : next ≠ source := by
      rintro rfl
      simp only [grown.root, Labels.improves, decide_eq_true_eq] at better
      exact absurd better (not_lt.mpr total)
    have kept : ∀ node ∈ visited, node ≠ next := fun node visitedNode same => outside (same ▸ visitedNode)
    refine ⟨?_, ?_, ?_, ?_, ?_⟩
    · simpa [Function.update_of_ne foreign.symm] using grown.root
    · intro node known label
      by_cases same : node = next
      · subst same
        simp only [Function.update_self, Option.some.injEq] at label
        exact label ▸ total
      · simp only [Function.update_of_ne same] at label
        exact grown.above node known label
    · intro node visitedNode
      simpa [Function.update_of_ne (kept node visitedNode)] using grown.reached node visitedNode
    · intro node known label different
      by_cases same : node = next
      · subst same
        simp only [Function.update_self, Option.some.injEq] at label
        refine ⟨current, member, bound, weight, by simp, ?_, joined, label.symm⟩
        simpa [Function.update_of_ne (kept current member)] using labelled
      · simp only [Function.update_of_ne same] at label ⊢
        obtain ⟨before, earlier, start, between, previous, startLabel, rest⟩ := grown.linked node known label different
        exact ⟨before, earlier, start, between, previous, by rwa [Function.update_of_ne (kept before earlier)], rest⟩
    · intro newer node older splits different
      obtain ⟨before, earlier, previous⟩ := grown.ordered newer node older splits different
      refine ⟨before, earlier, ?_⟩
      rw [← previous]
      exact Function.update_of_ne (kept node (by rw [splits]; simp)) _ _
  · exact grown

theorem divided_relax (grown : Grown edge source visited labels) (divided : Divided visited bound labels) (next : ν) {weight : K}
    (positive : 0 ≤ weight) : Divided visited bound (labels.relax current next (bound + weight)) := by
  refine ⟨?_, ?_⟩
  · intro node member known label
    rw [relax_visited current grown divided next weight positive node member] at label
    exact divided.inner node member known label
  · intro node outside known label
    unfold Labels.relax at label
    split at label
    · by_cases same : node = next
      · subst same
        simp only [Function.update_self, Option.some.injEq] at label
        exact label ▸ le_add_of_nonneg_right positive
      · simp only [Function.update_of_ne same] at label
        exact divided.outer node outside known label
    · exact divided.outer node outside known label

-- What following some roads out of `current` has done to the labels.
structure Advanced (edge : ν → ν → K → Prop) (source : ν) (visited : List ν) (bound : K) (roads : List (ν × K))
    (labels later : Labels ν K) : Prop where
  grown : Grown edge source visited later
  divided : Divided visited bound later
  settled : ∀ node ∈ visited, later.dist node = labels.dist node
  lowers : ∀ node known, labels.dist node = some known → ∃ lower, later.dist node = some lower ∧ lower ≤ known
  reaches : ∀ road ∈ roads, ∃ label, later.dist road.1 = some label ∧ label ≤ bound + road.2

variable {roads : List (ν × K)}

theorem follow_advances (joined : ∀ road ∈ roads, edge current road.1 road.2 ∧ 0 ≤ road.2) (member : current ∈ visited)
    (labels : Labels ν K) (grown : Grown edge source visited labels) (divided : Divided visited bound labels)
    (labelled : labels.dist current = some bound) :
    Advanced edge source visited bound roads labels (roads.foldl (Labels.follow current bound) labels) := by
  induction roads generalizing labels with
  | nil => exact ⟨grown, divided, fun _ _ => rfl, fun _ known label => ⟨known, label, le_refl known⟩, by simp⟩
  | cons road roads ih =>
      obtain ⟨joins, positive⟩ := joined road (by simp)
      have settled := relax_visited current grown divided road.1 road.2 positive
      have later := ih (fun other listed => joined other (by simp [listed])) (labels.follow current bound road)
        (grown_relax grown divided member labelled road.1 positive joins)
        (divided_relax grown divided road.1 positive) ((settled current member).trans labelled)
      refine ⟨later.grown, later.divided, ?_, ?_, ?_⟩
      · intro node visitedNode
        exact (later.settled node visitedNode).trans (settled node visitedNode)
      · intro node known label
        obtain ⟨lower, label', near⟩ := labels.relax_lowers current road.1 (bound + road.2) node known label
        obtain ⟨lowest, label'', nearer⟩ := later.lowers node lower label'
        exact ⟨lowest, label'', nearer.trans near⟩
      · intro other listed
        rcases List.mem_cons.mp listed with rfl | rest
        · obtain ⟨label, reached, near⟩ := labels.relax_reaches current other.1 (bound + other.2)
          obtain ⟨lower, label', nearer⟩ := later.lowers other.1 label reached
          exact ⟨lower, label', nearer.trans near⟩
        · exact later.reaches other rest

theorem searched_visit (searched : Searched edge source visited labels) (unvisited : current ∉ visited)
    (labelled : labels.dist current = some bound)
    (nearest : ∀ node ∉ visited, ∀ known, labels.dist node = some known → bound ≤ known)
    (leaving : ∀ next weight, edge current next weight ↔ (next, weight) ∈ roads) (positive : ∀ road ∈ roads, 0 ≤ road.2) :
    Searched edge source (current :: visited) (roads.foldl (Labels.follow current bound) labels) := by
  have advanced := follow_advances
    (fun road listed => ⟨(leaving road.1 road.2).mpr listed, positive road listed⟩) (by simp) labels
    (grown_visit searched.grown labelled) (divided_visit searched.divided unvisited labelled nearest) labelled
  refine ⟨advanced.grown, ?_, bound, advanced.divided⟩
  intro node member known next weight label joined
  rw [advanced.settled node member] at label
  rcases List.mem_cons.mp member with rfl | earlier
  · rw [labelled] at label
    cases label
    exact advanced.reaches (next, weight) ((leaving next weight).mp joined)
  · obtain ⟨earlierLabel, label', near⟩ := searched.followed node earlier known next weight label joined
    obtain ⟨lower, label'', nearer⟩ := advanced.lowers next earlierLabel label'
    exact ⟨lower, label'', nearer.trans near⟩

end Relaxing

end Search

end AiWorld.Graphs
