import AiWorld.World.Commute
import Mathlib.Algebra.Order.Archimedean.Basic
import Mathlib.Data.Rat.Floor
import Mathlib.Tactic.Linarith

set_option autoImplicit false

namespace AiWorld.World

open AiWorld.Graphs

section Steps

variable {K : Type} [Field K] [LinearOrder K] (distance : Vec2 K → Vec2 K → K) (town : TownPlan K)

-- The road graph has every place of the town, and one can walk from any node to any other.
structure Joined : Prop where
  sound : Sound town.roads
  residence : town.roads.nodes.has residenceNode = true
  hall : town.roads.nodes.has hallNode = true
  lots : ∀ slot ∈ town.lots, town.roads.nodes.has slot.roadNode = true
  connected : ∀ a b, town.roads.nodes.has a = true → town.roads.nodes.has b = true → Reaches (joins town.roads) a b

-- A path that starts at one node's point and ends at another's.
def Leads (path : List (Vec2 K)) (a b : String) : Prop :=
  ∃ start finish, town.roads.nodes.get a = some start ∧ town.roads.nodes.get b = some finish ∧
    path.head? = some start ∧ path.getLast? = some finish

structure Commuting (state : CommuteState K) : Prop where
  placeKnown : town.roads.nodes.has state.placeNode = true
  targetKnown : town.roads.nodes.has state.targetNode = true
  standing : state.path = none → state.target = state.place ∧ state.targetNode = state.placeNode
  traveling : ∀ path, state.path = some path → Leads town path state.placeNode state.targetNode ∧ 0 < state.distance

variable {town}

theorem resolve_known (joined : Joined town) (lotOf : LotOf town) (place : Place) :
    town.roads.nodes.has (resolvePlaceNode town lotOf place) = true := by
  cases place with
  | residence => exact joined.residence
  | hall => exact joined.hall
  | project projectId =>
      simp only [resolvePlaceNode]
      split
      · exact joined.hall
      · exact joined.lots _ (List.get_mem _ _)

theorem settled_commutes (place : Place) {node : String} (nowMs : K) (known : town.roads.nodes.has node = true) :
    Commuting town (settledAt place node nowMs) :=
  ⟨known, known, fun _ => ⟨rfl, rfl⟩, fun _ traveling => by cases traveling⟩

variable {state : CommuteState K}

theorem arrive_commutes (nowMs : K) (commuting : Commuting town state) : Commuting town (arrive state nowMs) := by
  unfold arrive
  split
  · exact ⟨commuting.targetKnown, commuting.targetKnown, fun _ => ⟨rfl, rfl⟩, fun _ traveling => by cases traveling⟩
  · exact commuting

theorem arrive_traveling {nowMs : K} (traveling : (arrive state nowMs).path.isSome = true) : arrive state nowMs = state := by
  unfold arrive at traveling ⊢
  split at traveling
  · cases traveling
  · rename_i unfinished
    simp [unfinished]

-- The three ways a step without reduced motion goes.
theorem step_cases (prev : CommuteState K) (desired : Place) (agentId : String) (lotOf : LotOf town) (nowMs : K) :
    (prev.path.isSome = true ∧ finishes prev nowMs = false ∧ stepCommute distance town prev desired agentId lotOf nowMs false = prev) ∨
    ((arrive prev nowMs).path = none ∧ (arrive prev nowMs).place = desired ∧
      stepCommute distance town prev desired agentId lotOf nowMs false = arrive prev nowMs) ∨
    ((arrive prev nowMs).path = none ∧ (arrive prev nowMs).place ≠ desired ∧
      stepCommute distance town prev desired agentId lotOf nowMs false =
        startTrip distance town (arrive prev nowMs) desired agentId lotOf nowMs) := by
  simp only [stepCommute, Bool.false_eq_true, if_false, Bool.or_eq_true, place_equals_iff]
  by_cases traveling : (arrive prev nowMs).path.isSome = true
  · have same := arrive_traveling traveling
    refine Or.inl ⟨same ▸ traveling, ?_, (if_pos (Or.inl traveling)).trans same⟩
    by_contra finished
    rw [Bool.not_eq_false] at finished
    simp [arrive, finished] at traveling
  · have standing : (arrive prev nowMs).path = none := by simpa using traveling
    by_cases there : (arrive prev nowMs).place = desired
    · exact Or.inr (Or.inl ⟨standing, there, by simp [there]⟩)
    · exact Or.inr (Or.inr ⟨standing, there, by simp [standing, there]⟩)

end Steps

section Trips

variable {K : Type} [Field K] [LinearOrder K] [IsStrictOrderedRing K] {distance : Vec2 K → Vec2 K → K}
  (positive : ∀ a b, 0 ≤ distance a b) {town : TownPlan K} (joined : Joined town)

include joined in
theorem path_leads {a b : String} (first : town.roads.nodes.has a = true) (second : town.roads.nodes.has b = true) :
    ∃ path, shortestPath town.roads a b = some path ∧ Leads town path a b := by
  obtain ⟨-, answers⟩ := shortest_path_ends town.roads joined.sound a b
  cases answer : shortestPath town.roads a b with
  | none =>
      rw [answer] at answers
      rcases answers with unknown | unknown | apart
      · rw [first] at unknown
        cases unknown
      · rw [second] at unknown
        cases unknown
      · exact absurd (joined.connected a b first second) apart
  | some points =>
      rw [answer] at answers
      obtain ⟨-, -, path, length, ⟨walk, -⟩, same⟩ := answers
      obtain ⟨start, startPoint⟩ := Option.isSome_iff_exists.mp first
      obtain ⟨finish, finishPoint⟩ := Option.isSome_iff_exists.mp second
      refine ⟨points, rfl, start, finish, startPoint, finishPoint, ?_, ?_⟩
      · have heads := congrArg List.head? same
        simpa [walk_head walk, startPoint] using heads
      · have lasts := congrArg List.getLast? same
        simpa [walk_last walk, finishPoint] using lasts

include positive in
theorem path_length_nonneg (path : List (Vec2 K)) : 0 ≤ pathLength distance path := by
  fun_induction pathLength distance path with
  | case1 a b rest ih => exact add_nonneg (positive a b) ih
  | case2 => exact le_refl 0

include positive joined in
-- A trip that is started is under way, or had no length.
theorem start_trip_cases {standing : CommuteState K} (place : Place) (agentId : String) (lotOf : LotOf town) (nowMs : K)
    (known : town.roads.nodes.has standing.placeNode = true) :
    (startTrip distance town standing place agentId lotOf nowMs = settledAt place (resolvePlaceNode town lotOf place) nowMs ∧
      (standing.placeNode = resolvePlaceNode town lotOf place ∨
        ∃ path, shortestPath town.roads standing.placeNode (resolvePlaceNode town lotOf place) = some path ∧
          pathLength distance path = 0)) ∨
    ∃ path, startTrip distance town standing place agentId lotOf nowMs =
        { place := standing.place, placeNode := standing.placeNode, target := place
          targetNode := resolvePlaceNode town lotOf place, path := some path, startMs := nowMs
          distance := pathLength distance path, vehicle := vehicleFor (pathLength distance path) agentId } ∧
      Leads town path standing.placeNode (resolvePlaceNode town lotOf place) ∧ 0 < pathLength distance path := by
  by_cases same : standing.placeNode = resolvePlaceNode town lotOf place
  · exact Or.inl ⟨by simp [startTrip, route, same], Or.inl same⟩
  · obtain ⟨path, found, leads⟩ := path_leads joined known (resolve_known joined lotOf place)
    by_cases short : pathLength distance path ≤ 0
    · refine Or.inl ⟨by simp [startTrip, route, same, found, short], Or.inr ⟨path, found, ?_⟩⟩
      exact le_antisymm short (path_length_nonneg positive path)
    · exact Or.inr ⟨path, by simp [startTrip, route, same, found, short], leads, not_le.mp short⟩

include positive joined in
theorem step_commutes {prev : CommuteState K} (desired : Place) (agentId : String) (lotOf : LotOf town) (nowMs : K)
    (commuting : Commuting town prev) : Commuting town (stepCommute distance town prev desired agentId lotOf nowMs false) := by
  have arrived := arrive_commutes nowMs commuting
  have targetKnown := resolve_known joined lotOf desired
  rcases step_cases distance prev desired agentId lotOf nowMs with ⟨-, -, next⟩ | ⟨-, -, next⟩ | ⟨-, -, next⟩
  · rw [next]
    exact commuting
  · rw [next]
    exact arrived
  · rw [next]
    rcases start_trip_cases positive joined desired agentId lotOf nowMs arrived.placeKnown with
      ⟨settled, -⟩ | ⟨path, trip, leads, long⟩
    · rw [settled]
      exact settled_commutes desired nowMs targetKnown
    · rw [trip]
      refine ⟨arrived.placeKnown, targetKnown, (fun standing => by cases standing), ?_⟩
      intro other traveling
      cases traveling
      exact ⟨leads, long⟩

end Trips

section Runs

variable {K : Type}

-- What one call is given.
structure Tick (town : TownPlan K) where
  desired : Place
  lotOf : LotOf town
  nowMs : K

-- A twin from the moment it is first seen.
structure Journey (town : TownPlan K) where
  agentId : String
  place : Place
  lotOf : LotOf town
  ticks : Nat → Tick town

-- How many trips can still be finished when the twin goes on wanting `desired`.
def tripsLeft (desired : Place) (state : CommuteState K) : Nat :=
  if state.path.isSome then if state.target = desired then 1 else 2
  else if state.place = desired then 0 else 1

theorem arrived_iff (state : CommuteState K) (desired : Place) :
    isArrivedAt state desired = true ↔ state.path = none ∧ state.place = desired := by
  simp [isArrivedAt, place_equals_iff]

theorem trips_left_arrived (state : CommuteState K) (desired : Place) :
    tripsLeft desired state = 0 ↔ isArrivedAt state desired = true := by
  rw [arrived_iff, tripsLeft]
  cases state.path with
  | none => simp
  | some path => by_cases same : state.target = desired <;> simp [same]

theorem trips_left_le (state : CommuteState K) (desired : Place) : tripsLeft desired state ≤ 2 := by
  unfold tripsLeft
  split <;> split <;> omega

variable [Field K] [LinearOrder K] (distance : Vec2 K → Vec2 K → K) {town : TownPlan K}

theorem arrive_left {state : CommuteState K} {nowMs : K} (desired : Place) (standing : (arrive state nowMs).path = none) :
    (if (arrive state nowMs).place = desired then 0 else 1) + (finishes state nowMs).toNat ≤ tripsLeft desired state := by
  cases finished : finishes state nowMs with
  | true =>
      have traveling : state.path.isSome = true := (Bool.and_eq_true_iff.mp finished).1
      simp only [arrive, finished, if_true, tripsLeft, traveling]
      by_cases same : state.target = desired <;> simp [same]
  | false =>
      simp only [arrive, finished, Bool.false_eq_true, if_false] at standing ⊢
      simp [tripsLeft, standing]

theorem step_traveling (prev : CommuteState K) (desired : Place) (agentId : String) (lotOf : LotOf town) (nowMs : K)
    (traveling : prev.path.isSome = true) (unfinished : finishes prev nowMs = false) :
    stepCommute distance town prev desired agentId lotOf nowMs false = prev := by
  have same : arrive prev nowMs = prev := by simp [arrive, unfinished]
  simp [stepCommute, same, traveling]

theorem step_arrived {prev : CommuteState K} {desired : Place} (agentId : String) (lotOf : LotOf town) (nowMs : K)
    (arrived : isArrivedAt prev desired = true) : stepCommute distance town prev desired agentId lotOf nowMs false = prev := by
  obtain ⟨standing, there⟩ := (arrived_iff prev desired).mp arrived
  have same : arrive prev nowMs = prev := by simp [arrive, finishes, standing]
  simp [stepCommute, same, place_equals_iff, there]

namespace Journey

variable (journey : Journey town)

def state : Nat → CommuteState K
  | 0 => initCommute town journey.place journey.lotOf
  | n + 1 => stepCommute distance town (state n) (journey.ticks n).desired journey.agentId (journey.ticks n).lotOf
      (journey.ticks n).nowMs false

def finishesAt (n : Nat) : Bool := finishes (journey.state distance n) (journey.ticks n).nowMs

-- How many trips the first `n` calls finished.
def finishedTrips : Nat → Nat
  | 0 => 0
  | n + 1 => finishedTrips n + (journey.finishesAt distance n).toNat

def Wants (desired : Place) (start later : Nat) : Prop := ∀ k, start ≤ k → k < later → (journey.ticks k).desired = desired

variable {journey}

theorem finished_mono (start later : Nat) (after : start ≤ later) :
    journey.finishedTrips distance start ≤ journey.finishedTrips distance later := by
  induction later, after using Nat.le_induction with
  | base => exact le_refl _
  | succ later after ih => exact Nat.le_add_right_of_le ih

theorem arrived_stays (start later : Nat) (after : start ≤ later) (desired : Place) (wants : journey.Wants desired start later)
    (arrived : isArrivedAt (journey.state distance start) desired = true) :
    journey.state distance later = journey.state distance start := by
  induction later, after using Nat.le_induction with
  | base => rfl
  | succ later after ih =>
      have same := ih (fun k inside below => wants k inside (Nat.lt_succ_of_lt below))
      rw [state, same, wants later after (Nat.lt_succ_self later)]
      exact step_arrived distance _ _ _ arrived

-- A trip that never ends leaves the twin as it is.
theorem traveling_stays {start later : Nat} (after : start ≤ later) (traveling : (journey.state distance start).path.isSome = true)
    (unfinished : ∀ k, start ≤ k → journey.finishesAt distance k = false) :
    journey.state distance later = journey.state distance start := by
  induction later, after using Nat.le_induction with
  | base => rfl
  | succ later after ih =>
      rw [state, step_traveling distance _ _ _ _ _ (by rw [ih]; exact traveling) (unfinished later after)]
      exact ih

end Journey

end Runs

section Progress

variable {K : Type} [Field K] [LinearOrder K] [IsStrictOrderedRing K] {distance : Vec2 K → Vec2 K → K}
  (positive : ∀ a b, 0 ≤ distance a b) {town : TownPlan K} (joined : Joined town)

include positive joined

variable {prev : CommuteState K}

theorem step_left (desired : Place) (agentId : String) (lotOf : LotOf town) (nowMs : K) (commuting : Commuting town prev) :
    tripsLeft desired (stepCommute distance town prev desired agentId lotOf nowMs false) + (finishes prev nowMs).toNat ≤
      tripsLeft desired prev := by
  rcases step_cases distance prev desired agentId lotOf nowMs with
    ⟨-, unfinished, next⟩ | ⟨standing, there, next⟩ | ⟨standing, elsewhere, next⟩
  · simp [next, unfinished]
  · have left := arrive_left desired standing
    rw [next]
    simpa [tripsLeft, standing] using left
  · have left := arrive_left desired standing
    have started : tripsLeft desired (startTrip distance town (arrive prev nowMs) desired agentId lotOf nowMs) ≤ 1 := by
      rcases start_trip_cases positive joined desired agentId lotOf nowMs
        (arrive_commutes nowMs commuting).placeKnown with ⟨settled, -⟩ | ⟨path, trip, -⟩
      · simp [settled, settledAt, tripsLeft]
      · simp [trip, tripsLeft]
    rw [next]
    rw [if_neg elsewhere] at left
    omega

-- Wanting to be elsewhere, a twin that stands sets off.
theorem step_sets_off {desired : Place} {agentId : String} {lotOf : LotOf town} {nowMs : K} (commuting : Commuting town prev)
    (standing : (stepCommute distance town prev desired agentId lotOf nowMs false).path = none) :
    isArrivedAt (stepCommute distance town prev desired agentId lotOf nowMs false) desired = true := by
  rw [arrived_iff]
  refine ⟨standing, ?_⟩
  rcases step_cases distance prev desired agentId lotOf nowMs with ⟨traveling, -, next⟩ | ⟨-, there, next⟩ | ⟨-, -, next⟩
  · rw [next] at standing
    simp [standing] at traveling
  · rw [next]
    exact there
  · rw [next] at standing ⊢
    rcases start_trip_cases positive joined desired agentId lotOf nowMs
      (arrive_commutes nowMs commuting).placeKnown with ⟨settled, -⟩ | ⟨path, trip, -⟩
    · rw [settled]
      rfl
    · rw [trip] at standing
      cases standing

theorem step_place (prev : CommuteState K) (desired : Place) (agentId : String) (lotOf : LotOf town) (nowMs : K)
    (commuting : Commuting town prev) :
    ∃ stop, (stop = prev.placeNode ∨ finishes prev nowMs = true ∧ stop = prev.targetNode) ∧
      ((stepCommute distance town prev desired agentId lotOf nowMs false).placeNode = stop ∨
        (stepCommute distance town prev desired agentId lotOf nowMs false).path = none ∧
          ∃ path, shortestPath town.roads stop (stepCommute distance town prev desired agentId lotOf nowMs false).placeNode =
            some path ∧ pathLength distance path = 0) := by
  have stop : (arrive prev nowMs).placeNode = prev.placeNode ∨
      finishes prev nowMs = true ∧ (arrive prev nowMs).placeNode = prev.targetNode := by
    by_cases finished : finishes prev nowMs = true
    · exact Or.inr ⟨finished, by simp [arrive, finished]⟩
    · exact Or.inl (by simp [arrive, finished])
  rcases step_cases distance prev desired agentId lotOf nowMs with ⟨-, -, next⟩ | ⟨-, -, next⟩ | ⟨-, -, next⟩
  · exact ⟨prev.placeNode, Or.inl rfl, Or.inl (by rw [next])⟩
  · exact ⟨(arrive prev nowMs).placeNode, stop, Or.inl (by rw [next])⟩
  · refine ⟨(arrive prev nowMs).placeNode, stop, ?_⟩
    rw [next]
    rcases start_trip_cases positive joined desired agentId lotOf nowMs
      (arrive_commutes nowMs commuting).placeKnown with ⟨settled, same | short⟩ | ⟨path, trip, -⟩
    · rw [settled]
      exact Or.inl same.symm
    · rw [settled]
      exact Or.inr ⟨rfl, short⟩
    · rw [trip]
      exact Or.inl rfl

variable (journey : Journey town)

theorem journey_commutes (n : Nat) : Commuting town (journey.state distance n) := by
  induction n with
  | zero => exact settled_commutes journey.place 0 (resolve_known joined journey.lotOf journey.place)
  | succ n ih => exact step_commutes positive joined _ journey.agentId _ _ ih

theorem journey_left (start later : Nat) (after : start ≤ later) (desired : Place) (wants : journey.Wants desired start later) :
    journey.finishedTrips distance later + tripsLeft desired (journey.state distance later) ≤
      journey.finishedTrips distance start + tripsLeft desired (journey.state distance start) := by
  induction later, after using Nat.le_induction with
  | base => exact le_refl _
  | succ later after ih =>
      have earlier := ih (fun k inside below => wants k inside (Nat.lt_succ_of_lt below))
      have left := step_left positive joined desired journey.agentId
        (journey.ticks later).lotOf (journey.ticks later).nowMs (journey_commutes positive joined journey later)
      simp only [Journey.finishedTrips, Journey.finishesAt, Journey.state, wants later after (Nat.lt_succ_self later)]
      omega

-- The clock runs past the end of every trip.
omit positive joined in
theorem trip_ends (clock : Monotone (fun k => (journey.ticks k).nowMs)) (unbounded : ∀ time, ∃ k, time ≤ (journey.ticks k).nowMs)
    {start : Nat} (traveling : (journey.state distance start).path.isSome = true) :
    ∃ k, start ≤ k ∧ journey.finishesAt distance k = true := by
  by_contra never
  have unfinished : ∀ k, start ≤ k → journey.finishesAt distance k = false := by
    intro k after
    cases finished : journey.finishesAt distance k with
    | true => exact absurd ⟨k, after, finished⟩ never
    | false => rfl
  obtain ⟨k, late⟩ := unbounded ((journey.state distance start).startMs + travelMs (journey.state distance start))
  have later := unfinished (max k start) (le_max_right _ _)
  have passed : (journey.ticks k).nowMs ≤ (journey.ticks (max k start)).nowMs := clock (le_max_left k start)
  rw [Journey.finishesAt, journey.traveling_stays distance (le_max_right _ _) traveling unfinished] at later
  simp only [finishes, traveling, Bool.true_and, decide_eq_false_iff_not, not_le] at later
  linarith

theorem eventually_arrives (clock : Monotone (fun k => (journey.ticks k).nowMs))
    (unbounded : ∀ time, ∃ k, time ≤ (journey.ticks k).nowMs) (start : Nat) (desired : Place)
    (wants : ∀ later, journey.Wants desired start later) :
    ∃ later, start ≤ later ∧ isArrivedAt (journey.state distance later) desired = true := by
  -- on the trips left: every trip ends, and a finished one is one less
  induction left : tripsLeft desired (journey.state distance start) using Nat.strong_induction_on generalizing start with
  | _ left ih =>
      by_cases standing : (journey.state distance (start + 1)).path = none
      · refine ⟨start + 1, Nat.le_succ start, ?_⟩
        have wanted := wants (start + 1) start le_rfl (Nat.lt_succ_self start)
        rw [Journey.state, wanted] at standing ⊢
        exact step_sets_off positive joined (journey_commutes positive joined journey start) standing
      · obtain ⟨last, after, finished⟩ := trip_ends journey clock unbounded (Option.isSome_iff_ne_none.mpr standing)
        have fewer := journey_left positive joined journey start (last + 1) (by omega) desired (wants (last + 1))
        have earlier := journey.finished_mono distance start last (by omega)
        rw [Journey.finishedTrips, finished, Bool.toNat_true] at fewer
        obtain ⟨later, since, arrived⟩ := ih _ (by omega) (last + 1)
          (fun later k inside below => wants later k (by omega) below) rfl
        exact ⟨later, by omega, arrived⟩

theorem commute_holds (clock : Monotone (fun k => (journey.ticks k).nowMs)) :
    (∀ n path, (journey.state distance n).path = some path →
      Leads town path (journey.state distance n).placeNode (journey.state distance n).targetNode ∧
      0 < (journey.state distance n).distance ∧
      ((journey.ticks n).nowMs - (journey.state distance n).startMs < travelMs (journey.state distance n) →
        journey.state distance (n + 1) = journey.state distance n)) ∧
    (∀ n, (journey.state distance n).path = none →
      (journey.state distance n).target = (journey.state distance n).place ∧
      (journey.state distance n).targetNode = (journey.state distance n).placeNode) ∧
    (∀ n, ∃ stop, (stop = (journey.state distance n).placeNode ∨
        journey.finishesAt distance n = true ∧ stop = (journey.state distance n).targetNode) ∧
      ((journey.state distance (n + 1)).placeNode = stop ∨
        (journey.state distance (n + 1)).path = none ∧
          ∃ path, shortestPath town.roads stop (journey.state distance (n + 1)).placeNode = some path ∧
            pathLength distance path = 0)) ∧
    (∀ start later desired, start ≤ later → journey.Wants desired start later →
      journey.finishedTrips distance later ≤ journey.finishedTrips distance start + 2 ∧
      (journey.finishedTrips distance later = journey.finishedTrips distance start + 2 →
        isArrivedAt (journey.state distance later) desired = true) ∧
      (isArrivedAt (journey.state distance start) desired = true →
        journey.state distance later = journey.state distance start)) ∧
    ((∀ time, ∃ k, time ≤ (journey.ticks k).nowMs) → ∀ start desired, (∀ later, journey.Wants desired start later) →
      ∃ later, start ≤ later ∧ isArrivedAt (journey.state distance later) desired = true) := by
  refine ⟨?_, ?_, ?_, ?_, ?_⟩
  · intro n path traveling
    obtain ⟨leads, long⟩ := (journey_commutes positive joined journey n).traveling path traveling
    refine ⟨leads, long, ?_⟩
    intro early
    exact step_traveling distance _ _ _ _ _ (by simp [traveling]) (by simpa [finishes, traveling] using early)
  · intro n standing
    exact (journey_commutes positive joined journey n).standing standing
  · intro n
    exact step_place positive joined _ _ _ _ _ (journey_commutes positive joined journey n)
  · intro start later desired after wants
    have left := journey_left positive joined journey start later after desired wants
    have most := trips_left_le (journey.state distance start) desired
    refine ⟨by omega, ?_, ?_⟩
    · intro both
      exact (trips_left_arrived _ desired).mp (by omega)
    · exact journey.arrived_stays distance start later after desired wants
  · intro unbounded start desired wants
    exact eventually_arrives positive joined journey clock unbounded start desired wants

end Progress

namespace Sample

def lane : List (Call ℚ) :=
  [.node residenceNode ⟨0, 0⟩, .node hallNode ⟨6, 0⟩, .node (lotNode 0 0) ⟨3, 4⟩, .edge residenceNode (lotNode 0 0),
    .edge (lotNode 0 0) hallNode]

def village : TownPlan ℚ where
  lots := [lotSlot 0 0]
  roads := match build cityBlocks lane with
    | .ok graph => graph
    | .error _ => {}

theorem village_joined : Joined village := by
  have positive : ∀ a b, 0 ≤ cityBlocks a b := fun a b => add_nonneg (abs_nonneg _) (abs_nonneg _)
  have sound : Sound village.roads := build_sound cityBlocks positive lane village.roads (by decide) rfl
  refine ⟨sound, by decide +kernel, by decide +kernel, by decide +kernel, ?_⟩
  have paths : ∀ a ∈ village.roads.nodes.keys, ∀ b ∈ village.roads.nodes.keys,
      (shortestPath village.roads a b).isSome = true := by
    decide +kernel
  intro a b first second
  obtain ⟨points, found⟩ := Option.isSome_iff_exists.mp
    (paths a ((OrderedMap.has_iff _ _).mp first) b ((OrderedMap.has_iff _ _).mp second))
  exact reaches_of_path sound found

-- It is sent to a project at once and sent home while it is on its way.
def errand : Journey village where
  agentId := "agent"
  place := .residence
  lotOf := fun _ => some ⟨0, by decide⟩
  ticks := fun n => ⟨if n = 0 then .project "north" else .residence, fun _ => some ⟨0, by decide⟩, n * 1000⟩

end Sample

theorem commute_holds_on_errand :
    (Sample.errand.state Sample.cityBlocks 1).path = some [⟨0, 0⟩, ⟨3, 4⟩] ∧
      ∃ later, 1 ≤ later ∧ isArrivedAt (Sample.errand.state Sample.cityBlocks later) .residence = true := by
  have positive : ∀ a b, 0 ≤ Sample.cityBlocks a b := fun a b => add_nonneg (abs_nonneg _) (abs_nonneg _)
  have clock : Monotone (fun k => (Sample.errand.ticks k).nowMs) := by
    intro earlier later after
    have order : (earlier : ℚ) ≤ later := Nat.cast_le.mpr after
    simp only [Sample.errand]
    linarith
  have unbounded : ∀ time, ∃ k, time ≤ (Sample.errand.ticks k).nowMs := by
    intro time
    obtain ⟨k, above⟩ := exists_nat_ge time
    have nonneg : (0 : ℚ) ≤ k := Nat.cast_nonneg k
    exact ⟨k, by simp only [Sample.errand]; linarith⟩
  have holds := commute_holds positive Sample.village_joined Sample.errand clock
  refine ⟨by decide +kernel, holds.2.2.2.2 unbounded 1 .residence ?_⟩
  intro later k inside below
  have positiveTick : k ≠ 0 := by omega
  simp [Sample.errand, positiveTick]

end AiWorld.World
