import AiWorld.Graphs.ShortestPaths
import AiWorld.World.Roads
import Mathlib.Algebra.Order.Field.Rat
import Mathlib.Data.List.Perm.Subperm

set_option autoImplicit false

namespace AiWorld.World

open AiWorld.Graphs

variable {a b id source target : String} {turns : Nat} {visited : List String}

section Graph

variable {K : Type}

def joins (graph : RoadGraph K) (a b : String) (weight : K) : Prop := (⟨b, weight⟩ : Road K) ∈ graph.roadsFrom a

-- What every graph that the builder makes satisfies.
structure Sound [Zero K] [LE K] (graph : RoadGraph K) : Prop where
  named : ∀ id, graph.nodes.has id = true → id ≠ ""
  known : ∀ a b weight, joins graph a b weight → graph.nodes.has a = true ∧ graph.nodes.has b = true
  positive : ∀ a b weight, joins graph a b weight → 0 ≤ weight

theorem joins_push (graph : RoadGraph K) (a b : String) (dist : K) (start finish : String) (weight : K) :
    joins (graph.push a b dist) start finish weight ↔ joins graph start finish weight ∨ (start = a ∧ finish = b ∧ weight = dist) := by
  by_cases same : start = a
  · subst same
    simp [joins, RoadGraph.push, RoadGraph.roadsFrom]
  · simp [joins, RoadGraph.push, RoadGraph.roadsFrom, same]

variable {graph : RoadGraph K}

theorem point_known {point : Vec2 K} (found : graph.pointAt id = .ok point) : graph.nodes.has id = true := by
  unfold RoadGraph.pointAt at found
  unfold OrderedMap.has
  split at found
  · rename_i stored
    simp [stored]
  · cases found

theorem points_of_path (path : List String) (inside : ∀ id ∈ path, graph.nodes.has id = true) :
    (path.filterMap graph.nodes.get).map some = path.map graph.nodes.get := by
  induction path with
  | nil => rfl
  | cons id path ih =>
      obtain ⟨point, stored⟩ := Option.isSome_iff_exists.mp (inside id (by simp))
      simp [stored, ih (fun other listed => inside other (by simp [listed]))]

variable [Zero K] [LE K] (distance : Vec2 K → Vec2 K → K)

theorem node_sound (sound : Sound graph) (point : Vec2 K) (named : id ≠ "") : Sound (graph.node id point) := by
  have has : ∀ other, (graph.node id point).nodes.has other = true ↔ other = id ∨ graph.nodes.has other = true := by
    intro other
    simp only [OrderedMap.has_iff, RoadGraph.node, OrderedMap.mem_keys_set]
  refine ⟨?_, ?_, sound.positive⟩
  · intro other listed
    rcases (has other).mp listed with rfl | earlier
    · exact named
    · exact sound.named other earlier
  · intro a b weight joined
    obtain ⟨first, second⟩ := sound.known a b weight joined
    exact ⟨(has a).mpr (Or.inr first), (has b).mpr (Or.inr second)⟩

theorem push_sound (sound : Sound graph) {dist : K} (first : graph.nodes.has a = true) (second : graph.nodes.has b = true)
    (positive : 0 ≤ dist) : Sound (graph.push a b dist) := by
  refine ⟨sound.named, ?_, ?_⟩
  · intro start finish weight joined
    rcases (joins_push graph a b dist start finish weight).mp joined with earlier | ⟨rfl, rfl, -⟩
    · exact sound.known start finish weight earlier
    · exact ⟨first, second⟩
  · intro start finish weight joined
    rcases (joins_push graph a b dist start finish weight).mp joined with earlier | ⟨-, -, rfl⟩
    · exact sound.positive start finish weight earlier
    · exact positive

theorem edge_sound (positive : ∀ a b, 0 ≤ distance a b) {later : RoadGraph K} (sound : Sound graph)
    (made : graph.edge distance a b = .ok later) : Sound later := by
  unfold RoadGraph.edge at made
  cases first : graph.pointAt a with
  | error message => simp [first, bind, Except.bind] at made
  | ok start =>
      cases second : graph.pointAt b with
      | error message => simp [first, second, bind, Except.bind] at made
      | ok finish =>
          simp only [first, second, bind, Except.bind, pure, Except.pure, Except.ok.injEq] at made
          subst made
          have knownStart := point_known first
          have knownFinish := point_known second
          refine push_sound (push_sound sound knownStart knownFinish (positive start finish)) ?_ ?_
            (positive start finish)
          · exact knownFinish
          · exact knownStart

theorem apply_sound (positive : ∀ a b, 0 ≤ distance a b) (graph later : RoadGraph K) (sound : Sound graph) (call : Call K)
    (named : ∀ id ∈ call.ids, id ≠ "") (made : call.apply distance graph = .ok later) : Sound later := by
  cases call with
  | node id point =>
      cases made
      exact node_sound sound point (named id (by simp [Call.ids]))
  | edge a b => exact edge_sound distance positive sound made

theorem build_from_sound (positive : ∀ a b, 0 ≤ distance a b) (calls : List (Call K)) (graph later : RoadGraph K)
    (sound : Sound graph) (named : ∀ call ∈ calls, ∀ id ∈ call.ids, id ≠ "")
    (made : calls.foldlM (Call.apply distance) graph = .ok later) : Sound later := by
  induction calls generalizing graph with
  | nil =>
      cases made
      exact sound
  | cons call calls ih =>
      rw [List.foldlM_cons] at made
      cases first : call.apply distance graph with
      | error message => simp [first, bind, Except.bind] at made
      | ok next =>
          simp only [first, bind, Except.bind] at made
          exact ih next (apply_sound distance positive graph next sound call (named call (by simp)) first)
            (fun other listed => named other (by simp [listed])) made

theorem build_sound (positive : ∀ a b, 0 ≤ distance a b) (calls : List (Call K)) (graph : RoadGraph K)
    (named : ∀ call ∈ calls, ∀ id ∈ call.ids, id ≠ "") (made : build distance calls = .ok graph) : Sound graph := by
  refine build_from_sound distance positive calls {} graph ⟨?_, ?_, ?_⟩ named made
  · intro id listed
    cases listed
  · intro a b weight joined
    cases joined
  · intro a b weight joined
    cases joined

end Graph

section Scan

variable {K : Type}

def Search.labels (search : Search K) : Labels String K := ⟨search.dist.get, search.prev.get⟩

theorem get_set_update {β : Type} (map : OrderedMap String β) (key : String) (value : β) :
    (map.set key value).get = Function.update map.get key (some value) := by
  funext other
  by_cases same : other = key
  · simp [same]
  · simp [same]

variable {search : Search K}

theorem retrace_chain (node : String) (path : List String) (chain : search.labels.Chain source node path)
    (named : ∀ id ∈ path, id ≠ "") (turns : Nat) (rest : List String) (enough : path.length ≤ turns) :
    retrace source search.prev turns node (node :: rest) = some (some (path ++ rest)) := by
  induction chain generalizing turns rest with
  | start =>
      cases turns with
      | zero => cases enough
      | succ turns => simp [retrace]
  | @back node before path different previous chain ih =>
      cases turns with
      | zero => simp at enough
      | succ turns =>
          have stored : search.prev.get node = some before := previous
          have nonempty : before ≠ "" := named before (by simp [Labels.chain_mem chain])
          simp only [retrace, different, if_false, stored, nonempty]
          rw [ih (fun id listed => named id (by simp [listed])) turns (node :: rest) (by simpa using enough)]
          simp

variable [LinearOrder K]

-- The scan so far: the nearest of the unvisited ids seen, if any.
def Nearest (visited : List String) (seen : List (String × K)) : Option (String × K) → Prop
  | none => ∀ entry ∈ seen, entry.1 ∈ visited
  | some (id, best) => (id, best) ∈ seen ∧ id ∉ visited ∧ ∀ entry ∈ seen, entry.1 ∉ visited → best ≤ entry.2

theorem closer_nearest (seen : List (String × K)) (best : Option (String × K)) (entry : String × K)
    (nearest : Nearest visited seen best) : Nearest visited (seen ++ [entry]) (closer visited best entry) := by
  unfold closer
  split
  · rename_i member
    cases best with
    | none =>
        intro other listed
        rcases List.mem_append.mp listed with earlier | last
        · exact nearest other earlier
        · rw [List.mem_singleton.mp last]
          exact member
    | some current =>
        obtain ⟨stored, outside, least⟩ := nearest
        refine ⟨by simp [stored], outside, ?_⟩
        intro other listed unvisited
        rcases List.mem_append.mp listed with earlier | last
        · exact least other earlier unvisited
        · rw [List.mem_singleton.mp last] at unvisited
          exact absurd member unvisited
  · rename_i outside
    cases best with
    | none =>
        refine ⟨by simp, outside, ?_⟩
        intro other listed unvisited
        rcases List.mem_append.mp listed with earlier | last
        · exact absurd (nearest other earlier) unvisited
        · rw [List.mem_singleton.mp last]
    | some current =>
        obtain ⟨stored, unvisitedCurrent, least⟩ := nearest
        by_cases shorter : entry.2 < current.2
        · simp only [shorter, if_true]
          refine ⟨by simp, outside, ?_⟩
          intro other listed unvisited
          rcases List.mem_append.mp listed with earlier | last
          · exact shorter.le.trans (least other earlier unvisited)
          · rw [List.mem_singleton.mp last]
        · simp only [shorter, if_false]
          refine ⟨by simp [stored], unvisitedCurrent, ?_⟩
          intro other listed unvisited
          rcases List.mem_append.mp listed with earlier | last
          · exact least other earlier unvisited
          · rw [List.mem_singleton.mp last]
            exact not_lt.mp shorter

theorem scan_nearest (rest seen : List (String × K)) (best : Option (String × K))
    (nearest : Nearest visited seen best) : Nearest visited (seen ++ rest) (rest.foldl (closer visited) best) := by
  induction rest generalizing seen best with
  | nil => simpa using nearest
  | cons entry rest ih => simpa using ih (seen ++ [entry]) (closer visited best entry) (closer_nearest seen best entry nearest)

theorem search_nearest (search : Search K) : Nearest search.visited search.dist.entries search.nearest := by
  have nothing : Nearest search.visited ([] : List (String × K)) none := by simp [Nearest]
  simpa [Search.nearest] using scan_nearest search.dist.entries [] none nothing

theorem nearest_none (none_left : search.nearest = none) {known : K} (labelled : search.labels.dist id = some known) :
    id ∈ search.visited := by
  have nearest := search_nearest search
  rw [none_left] at nearest
  exact nearest (id, known) ((search.dist.get_iff id known).mp labelled)

theorem nearest_some {current : String} {best : K} (found : search.nearest = some (current, best)) :
    search.labels.dist current = some best ∧ current ∉ search.visited ∧
      ∀ id ∉ search.visited, ∀ known, search.labels.dist id = some known → best ≤ known := by
  have nearest := search_nearest search
  rw [found] at nearest
  obtain ⟨stored, outside, least⟩ := nearest
  refine ⟨(search.dist.get_iff current best).mpr stored, outside, ?_⟩
  intro id unvisited known labelled
  exact least (id, known) ((search.dist.get_iff id known).mp labelled) unvisited

end Scan

section Search

variable {K : Type} [AddCommMonoid K] [LinearOrder K]

theorem relax_labels (current : String) (best : K) (search : Search K) (road : Road K) :
    (relax current best search road).labels = search.labels.follow current best (road.neighbor, road.dist) := by
  have same : shorter (best + road.dist) (search.dist.get road.neighbor) =
      Labels.improves (best + road.dist) (search.labels.dist road.neighbor) := by
    change _ = Labels.improves (best + road.dist) (search.dist.get road.neighbor)
    cases search.dist.get road.neighbor <;> rfl
  simp only [relax, Labels.follow, Labels.relax, same]
  split
  · simp [Search.labels, get_set_update]
  · rfl

theorem relax_visited_same (current : String) (best : K) (search : Search K) (road : Road K) :
    (relax current best search road).visited = search.visited := by
  simp only [relax]
  split <;> rfl

theorem follow_labels (current : String) (best : K) (roads : List (Road K)) (search : Search K) :
    (roads.foldl (relax current best) search).labels =
      (roads.map (fun road => (road.neighbor, road.dist))).foldl (Labels.follow current best) search.labels ∧
    (roads.foldl (relax current best) search).visited = search.visited := by
  induction roads generalizing search with
  | nil => exact ⟨rfl, rfl⟩
  | cons road roads ih =>
      obtain ⟨labels, visited⟩ := ih (relax current best search road)
      simp only [List.foldl_cons, List.map_cons]
      exact ⟨by rw [labels, relax_labels], by rw [visited, relax_visited_same]⟩

variable (graph : RoadGraph K) (source target : String)

structure Exploring (search : Search K) : Prop where
  searched : Searched (joins graph) source search.visited search.labels
  fresh : search.visited.Nodup
  inside : ∀ id ∈ search.visited, id ∈ graph.nodes.keys
  aside : target ∉ search.visited

variable {graph source target}

theorem exploring_start (graph : RoadGraph K) (source target : String) :
    Exploring graph source target { dist := OrderedMap.empty.set source (0 : K) } := by
  refine ⟨?_, List.nodup_nil, by simp, by simp⟩
  have labels : (Search.labels { dist := OrderedMap.empty.set source (0 : K) }) =
      ⟨Function.update (fun _ => none) source (some 0), fun _ => none⟩ := by
    simp only [Search.labels, get_set_update]
    rfl
  rw [labels]
  exact searched_start

variable (sound : Sound graph)

include sound

theorem labelled_known (known : graph.nodes.has source = true) {search : Search K} (exploring : Exploring graph source target search) {label : K}
    (labelled : search.labels.dist id = some label) : graph.nodes.has id = true := by
  by_cases same : id = source
  · rw [same]
    exact known
  · obtain ⟨before, -, start, weight, -, -, joined, -⟩ := exploring.searched.grown.linked id label labelled same
    exact (sound.known before id weight joined).2

theorem path_found (known : graph.nodes.has source = true) {final : Search K} (exploring : Exploring graph source target final)
    (length : K) (labelled : final.labels.dist target = some length) (turns : Nat) (enough : graph.turns ≤ turns) :
    ∃ path, Walk (joins graph) source target path length ∧
      retrace source final.prev turns target [target] = some (some path) := by
  obtain ⟨path, chain, walk, short⟩ := chain_of_labelled exploring.searched.grown labelled
  have most := (exploring.fresh.subperm exploring.inside).length_le
  have closed : ∀ a b weight, joins graph a b weight → graph.nodes.has b = true := fun a b weight joined =>
    (sound.known a b weight joined).2
  have named : ∀ id ∈ path, id ≠ "" := by
    intro id listed
    exact sound.named id (walk_known walk (fun id => graph.nodes.has id = true) known closed id listed)
  refine ⟨path, walk, ?_⟩
  rw [retrace_chain target path chain named turns [] (by unfold RoadGraph.turns at enough; omega)]
  simp

variable [IsOrderedAddMonoid K]

theorem visit_explores (known : graph.nodes.has source = true) (search : Search K) (exploring : Exploring graph source target search) {current : String} (best : K)
    (found : search.nearest = some (current, best)) (different : current ≠ target) :
    Exploring graph source target (visit graph search current best) ∧
      (visit graph search current best).visited = current :: search.visited := by
  obtain ⟨labelled, unvisited, nearest⟩ := nearest_some found
  obtain ⟨labels, visited⟩ :=
    follow_labels current best (graph.roadsFrom current) { search with visited := current :: search.visited }
  have leaving : ∀ next weight, joins graph current next weight ↔
      (next, weight) ∈ (graph.roadsFrom current).map (fun road => (road.neighbor, road.dist)) := by
    intro next weight
    simp only [joins, List.mem_map, Prod.mk.injEq]
    constructor
    · intro listed
      exact ⟨⟨next, weight⟩, listed, rfl, rfl⟩
    · rintro ⟨road, listed, rfl, rfl⟩
      exact listed
  have positive : ∀ road ∈ (graph.roadsFrom current).map (fun road => (road.neighbor, road.dist)), 0 ≤ road.2 := by
    intro road listed
    exact sound.positive current road.1 road.2 ((leaving road.1 road.2).mpr listed)
  have later := searched_visit exploring.searched unvisited labelled nearest leaving positive
  refine ⟨⟨?_, ?_, ?_, ?_⟩, visited⟩
  · rw [visit, labels, visited]
    exact later
  · rw [visit, visited]
    exact List.nodup_cons.mpr ⟨unvisited, exploring.fresh⟩
  · rw [visit, visited]
    intro id member
    rcases List.mem_cons.mp member with rfl | earlier
    · exact (OrderedMap.has_iff _ _).mp (labelled_known sound known exploring labelled)
    · exact exploring.inside id earlier
  · rw [visit, visited]
    intro member
    rcases List.mem_cons.mp member with same | earlier
    · exact different same.symm
    · exact exploring.aside earlier

theorem explore_ends (known : graph.nodes.has source = true) (turns : Nat) (search : Search K) (exploring : Exploring graph source target search)
    (enough : graph.nodes.keys.length < search.visited.length + turns) :
    ∃ final, explore graph target turns search = some final ∧ Exploring graph source target final ∧
      (final.nearest = none ∨ ∃ best, final.nearest = some (target, best)) := by
  induction turns generalizing search with
  | zero =>
      have most := (exploring.fresh.subperm exploring.inside).length_le
      omega
  | succ turns ih =>
      unfold explore
      split
      · rename_i none_left
        exact ⟨search, rfl, exploring, Or.inl none_left⟩
      · rename_i current best found
        by_cases same : current = target
        · subst same
          exact ⟨search, by simp, exploring, Or.inr ⟨best, found⟩⟩
        · obtain ⟨later, visited⟩ := visit_explores sound known search exploring best found same
          simp only [same, if_false]
          exact ih (visit graph search current best) later (by rw [visited, List.length_cons]; omega)

-- What the search knows about the target when it stops.
theorem explore_decides (final : Search K) (exploring : Exploring graph source target final)
    (stopped : final.nearest = none ∨ ∃ best, final.nearest = some (target, best)) :
    match final.labels.dist target with
    | none => ¬ Reaches (joins graph) source target
    | some length => ∀ path weight, Walk (joins graph) source target path weight → length ≤ weight := by
  have reach := frontier exploring.searched.grown exploring.searched.followed sound.positive target
  rcases stopped with none_left | ⟨best, found⟩
  · cases labelled : final.labels.dist target with
    | some length => exact absurd (nearest_none none_left labelled) exploring.aside
    | none =>
        rintro ⟨path, length, walk⟩
        rcases reach path length walk with ⟨label, labelled', -⟩ | ⟨id, outside, label, labelled', -⟩
        · rw [labelled] at labelled'
          cases labelled'
        · exact outside (nearest_none none_left labelled')
  · obtain ⟨labelled, -, nearest⟩ := nearest_some found
    rw [labelled]
    intro path weight walk
    rcases reach path weight walk with ⟨label, labelled', short⟩ | ⟨id, outside, label, labelled', short⟩
    · rw [labelled] at labelled'
      cases labelled'
      exact short
    · exact (nearest id outside label labelled').trans short

-- What `shortestPath` promises about its answer.
def Answers (graph : RoadGraph K) (source target : String) : Option (List (Vec2 K)) → Prop
  | none => graph.nodes.has source = false ∨ graph.nodes.has target = false ∨ ¬ Reaches (joins graph) source target
  | some points => graph.nodes.has source = true ∧ graph.nodes.has target = true ∧
      ∃ path length, Shortest (joins graph) source target path length ∧ points.map some = path.map graph.nodes.get

theorem walk_nonneg {path : List String} {length : K} (walk : Walk (joins graph) source target path length) : 0 ≤ length := by
  induction walk with
  | start => exact le_refl 0
  | along walk joined ih => exact add_nonneg ih (sound.positive _ _ _ joined)

variable (source target) in
theorem shortest_path_answers (enough : graph.turns ≤ turns) :
    ∃ answer, shortestPathIn graph source target turns = some answer ∧ Answers graph source target answer := by
  unfold shortestPathIn
  split
  · rename_i unknown
    refine ⟨none, rfl, ?_⟩
    simp only [Bool.or_eq_true, Bool.not_eq_true'] at unknown
    rcases unknown with first | second
    · exact Or.inl first
    · exact Or.inr (Or.inl second)
  · rename_i known
    simp only [Bool.or_eq_true, Bool.not_eq_true', not_or, Bool.not_eq_false] at known
    obtain ⟨first, second⟩ := known
    split
    · rename_i same
      subst same
      refine ⟨_, rfl, first, second, [source], 0, ⟨.start, ?_⟩, ?_⟩
      · intro other weight walk
        exact walk_nonneg sound walk
      · exact points_of_path [source] (by simpa using first)
    · obtain ⟨final, explored, exploring, stopped⟩ := explore_ends sound first turns _ (exploring_start graph source target)
        (by unfold RoadGraph.turns at enough; simp; omega)
      have decides := explore_decides sound final exploring stopped
      have stored : final.labels.dist target = final.dist.get target := rfl
      cases labelled : final.dist.get target with
      | none =>
          rw [stored, labelled] at decides
          exact ⟨none, by simp [explored, OrderedMap.has, labelled], Or.inr (Or.inr decides)⟩
      | some length =>
          rw [stored, labelled] at decides
          obtain ⟨path, walk, retraced⟩ := path_found sound first exploring length labelled turns enough
          have inside := walk_known walk (fun id => graph.nodes.has id = true) first
            (fun a b weight joined => (sound.known a b weight joined).2)
          refine ⟨some (path.filterMap graph.nodes.get), ?_, first, second, path, length, ⟨walk, decides⟩, ?_⟩
          · simp [explored, OrderedMap.has, labelled, retraced]
          · exact points_of_path path inside

end Search

section Turns

variable {K : Type} [LinearOrder K]

theorem explore_more [Add K] (graph : RoadGraph K) (more : Nat) (search final : Search K) (less : turns ≤ more)
    (explored : explore graph target turns search = some final) : explore graph target more search = some final := by
  induction turns generalizing more search with
  | zero => cases explored
  | succ turns ih =>
      obtain ⟨more, rfl⟩ : ∃ rest, more = rest + 1 := ⟨more - 1, by omega⟩
      unfold explore at explored ⊢
      split at explored
      · exact explored
      · split at explored
        · rename_i same
          simpa [same] using explored
        · rename_i different
          simp only [different, if_false]
          exact ih more _ (by omega) explored

theorem retrace_more {prev : OrderedMap String String} (turns more : Nat) (cursor : String) (path : List String)
    (answer : Option (List String)) (less : turns ≤ more) (retraced : retrace source prev turns cursor path = some answer) :
    retrace source prev more cursor path = some answer := by
  induction turns generalizing more cursor path with
  | zero => cases retraced
  | succ turns ih =>
      obtain ⟨more, rfl⟩ : ∃ rest, more = rest + 1 := ⟨more - 1, by omega⟩
      unfold retrace at retraced ⊢
      split at retraced
      · rename_i same
        simpa [same] using retraced
      · rename_i different
        simp only [different, if_false]
        split at retraced
        · exact retraced
        · split at retraced
          · rename_i unnamed
            simpa [unnamed] using retraced
          · rename_i named
            simp only [named, if_false]
            exact ih more _ _ (by omega) retraced

-- More turns change nothing once they do.
theorem shortest_path_more [Add K] [Zero K] {graph : RoadGraph K} {more : Nat} {answer : Option (List (Vec2 K))}
    (less : turns ≤ more) (answered : shortestPathIn graph source target turns = some answer) :
    shortestPathIn graph source target more = some answer := by
  unfold shortestPathIn at answered ⊢
  split at answered
  · rename_i unknown
    simpa [unknown] using answered
  · rename_i known
    simp only [known, Bool.false_eq_true, if_false]
    split at answered
    · rename_i same
      simpa [same] using answered
    · rename_i different
      simp only [different, if_false]
      cases explored : explore graph target turns { dist := OrderedMap.empty.set source 0 } with
      | none => simp [explored] at answered
      | some final =>
          rw [explore_more graph more _ final less explored]
          simp only [explored, Option.bind_eq_bind, Option.bind_some] at answered ⊢
          split at answered
          · rename_i unlabelled
            simpa [unlabelled] using answered
          · rename_i labelled
            simp only [labelled]
            cases retraced : retrace source final.prev turns target [target] with
            | none => simp [retraced] at answered
            | some path =>
                rw [retrace_more turns more target [target] path less retraced]
                simpa [retraced] using answered

end Turns

section Field

variable {K : Type} [Field K] [LinearOrder K] [IsStrictOrderedRing K]

-- The number of turns given to `shortestPath` always does.
theorem shortest_path_ends (graph : RoadGraph K) (sound : Sound graph) (source target : String) :
    (∀ turns, graph.turns ≤ turns → shortestPathIn graph source target turns = some (shortestPath graph source target)) ∧
      Answers graph source target (shortestPath graph source target) := by
  obtain ⟨answer, answered, answers⟩ := shortest_path_answers source target sound le_rfl
  have same : shortestPath graph source target = answer := by simp [shortestPath, answered]
  rw [same]
  exact ⟨fun turns enough => shortest_path_more enough answered, answers⟩

theorem reaches_of_path {graph : RoadGraph K} (sound : Sound graph) {points : List (Vec2 K)}
    (found : shortestPath graph source target = some points) : Reaches (joins graph) source target := by
  obtain ⟨-, answers⟩ := shortest_path_ends graph sound source target
  rw [found] at answers
  obtain ⟨-, -, path, length, shortest, -⟩ := answers
  exact ⟨path, length, shortest.1⟩

theorem shortest_paths_found (distance : Vec2 K → Vec2 K → K) (positive : ∀ a b, 0 ≤ distance a b) (calls : List (Call K))
    (named : ∀ call ∈ calls, ∀ id ∈ call.ids, id ≠ "") (graph : RoadGraph K) (made : build distance calls = .ok graph)
    (source target : String) :
    (∀ turns, graph.turns ≤ turns → shortestPathIn graph source target turns = some (shortestPath graph source target)) ∧
    (shortestPath graph source target = none ↔
      graph.nodes.has source = false ∨ graph.nodes.has target = false ∨ ¬ Reaches (joins graph) source target) ∧
    ∀ points, shortestPath graph source target = some points →
      ∃ path length, Shortest (joins graph) source target path length ∧ points.map some = path.map graph.nodes.get := by
  have sound := build_sound distance positive calls graph named made
  obtain ⟨ends, answers⟩ := shortest_path_ends graph sound source target
  refine ⟨ends, ?_, ?_⟩
  · cases answer : shortestPath graph source target with
    | none =>
        rw [answer] at answers
        exact ⟨fun _ => answers, fun _ => rfl⟩
    | some points =>
        rw [answer] at answers
        obtain ⟨first, second, path, length, ⟨walk, -⟩, -⟩ := answers
        have joined : Reaches (joins graph) source target := ⟨path, length, walk⟩
        simp [first, second, joined]
  · intro points answer
    rw [answer] at answers
    exact answers.2.2

end Field

namespace Sample

-- Streets that only run along the axes.
def cityBlocks (a b : Vec2 ℚ) : ℚ := |b.x - a.x| + |b.z - a.z|

def corner : List (Call ℚ) :=
  [.node "home" ⟨0, 0⟩, .node "shop" ⟨4, 0⟩, .node "park" ⟨1, 1⟩, .node "lake" ⟨9, 9⟩, .edge "home" "park", .edge "park" "shop",
    .edge "home" "shop"]

def corners : RoadGraph ℚ :=
  match build cityBlocks corner with
  | .ok graph => graph
  | .error _ => {}

theorem corner_named : ∀ call ∈ corner, ∀ id ∈ call.ids, id ≠ "" := by
  decide

end Sample

theorem shortest_paths_found_at_corner :
    shortestPath Sample.corners "home" "shop" = some [⟨0, 0⟩, ⟨4, 0⟩] ∧
      (∃ path length, Shortest (joins Sample.corners) "home" "shop" path length ∧
        [⟨0, 0⟩, ⟨4, 0⟩].map some = path.map Sample.corners.nodes.get) ∧
      shortestPath Sample.corners "home" "lake" = none ∧ ¬ Reaches (joins Sample.corners) "home" "lake" := by
  have positive : ∀ a b, 0 ≤ Sample.cityBlocks a b := fun a b => add_nonneg (abs_nonneg _) (abs_nonneg _)
  have found := shortest_paths_found Sample.cityBlocks positive Sample.corner Sample.corner_named Sample.corners rfl
  have near : shortestPath Sample.corners "home" "shop" = some [⟨0, 0⟩, ⟨4, 0⟩] := by decide +kernel
  have far : shortestPath Sample.corners "home" "lake" = none := by decide +kernel
  refine ⟨near, (found "home" "shop").2.2 _ near, far, ?_⟩
  rcases (found "home" "lake").2.1.mp far with unknown | unknown | apart
  · exact absurd unknown (by decide +kernel)
  · exact absurd unknown (by decide +kernel)
  · exact apart


end AiWorld.World
