import AiWorld.Projects.Lots
import AiWorld.World.Routes

set_option autoImplicit false

namespace AiWorld.Indoors

open AiWorld.World (Vec2)
open AiWorld.Polyline
open AiWorld.Projects (hashString)

variable {routes : RouteCache}

-- The PRNG: the draws of a seed, one after the other.
structure Chance where
  draw : String → Nat → ℝ
  nonneg : ∀ seed count, 0 ≤ draw seed count
  below : ∀ seed count, draw seed count < 1

structure TripPlan where
  goes : Bool
  startMs : ℝ
  outMs : ℝ
  dwellMs : ℝ
  totalMs : ℝ
  route : Route

structure IdleReference where
  route : Route
  s : ℝ

structure CachedPlan where
  bucket : Number
  floor : Number
  roomIndex : Number
  plan : TripPlan

-- The two memo tables.
structure Memory where
  planCache : OrderedMap String CachedPlan := .empty
  routeCache : RouteCache := .empty

def maxCachedAgents : Nat := 512

noncomputable section

section
variable (chance : Chance) (text : Number → String)

def bucketMs : ℝ := 40000.0

def walkSpeed : ℝ := 1.1

def goProbability : ℝ := 0.9

def dwellMinMs : ℝ := 4000.0

def dwellSpanMs : ℝ := 5000.0

def lobbyShare : ℝ := 0.7

def strollLeftShare : ℝ := 0.85

def pickDestination (pick : ℝ) (floor roomIndex bucket : Number) : Destination :=
  let places : Int := lobbySpotXs.length
  let shift : Int := (hashString (text floor ++ ":" ++ text bucket) : Int).tmod places
  if pick < lobbyShare then ⟨.lobby, (clampRoomIndex roomIndex - 1 + shift).tmod places⟩
  else ⟨if pick < strollLeftShare then .strollLeft else .strollRight, 0⟩

def planTrip (routes : RouteCache) (agentId : String) (floor roomIndex bucket : Number) : TripPlan × RouteCache :=
  let rng := chance.draw (agentId ++ "|" ++ text bucket)
  let goes := decide (rng 0 < goProbability)
  let startFraction := rng 1
  let dwellMs := dwellMinMs + rng 2 * dwellSpanMs
  let built := buildRoute routes roomIndex (pickDestination text (rng 3) floor roomIndex bucket)
  let route := built.1
  let outMs := (route.length - route.idleS) / walkSpeed * 1000.0
  let totalMs := 2.0 * outMs + dwellMs
  let startMs := startFraction * max 0 (bucketMs - totalMs)
  (⟨goes, startMs, outMs, dwellMs, totalMs, route⟩, built.2)

def smoothstep (x : ℝ) : ℝ :=
  let c := min (max x 0) 1
  c * c * (3.0 - 2.0 * c)

-- A new agent empties a full table.
def cachedPlan (memory : Memory) (agentId : String) (floor roomIndex bucket : Number) : TripPlan × Memory :=
  let planned := planTrip chance text memory.routeCache agentId floor roomIndex bucket
  match memory.planCache.get agentId with
  | some hit =>
      if hit.bucket.same bucket && hit.floor.same floor && hit.roomIndex.same roomIndex then (hit.plan, memory)
      else (planned.1, ⟨memory.planCache.set agentId ⟨bucket, floor, roomIndex, planned.1⟩, planned.2⟩)
  | none =>
      let kept := if maxCachedAgents ≤ memory.planCache.entries.length then .empty else memory.planCache
      (planned.1, ⟨kept.set agentId ⟨bucket, floor, roomIndex, planned.1⟩, planned.2⟩)

def referenceFromPlan (plan : TripPlan) (bucket nowMs : ℝ) : IdleReference :=
  let route := plan.route
  let lapse := nowMs - bucket * bucketMs - plan.startMs
  let reach := route.length - route.idleS
  if plan.goes = false ∨ lapse < 0 ∨ plan.totalMs ≤ lapse then ⟨route, route.idleS⟩
  else if lapse < plan.outMs then ⟨route, route.idleS + reach * smoothstep (lapse / plan.outMs)⟩
  else if lapse < plan.outMs + plan.dwellMs then ⟨route, route.length⟩
  else
    let back := (lapse - plan.outMs - plan.dwellMs) / plan.outMs
    ⟨route, route.length - reach * smoothstep back⟩

def bucketOf (nowMs : ℝ) : Int := ⌊nowMs / bucketMs⌋

def idleReference (memory : Memory) (agentId : String) (floor roomIndex : Number) (nowMs : ℝ) : IdleReference × Memory :=
  let planned := cachedPlan chance text memory agentId floor roomIndex (.finite (bucketOf nowMs))
  (referenceFromPlan planned.1 (bucketOf nowMs) nowMs, planned.2)

-- A call that may have filled the tables before.
inductive Call where
  | cachedPlan (agentId : String) (floor roomIndex bucket : Number)
  | buildRoute (roomIndex : Number) (dest : Destination)

def Call.run (memory : Memory) : Call → Memory
  | .cachedPlan agentId floor roomIndex bucket => (Indoors.cachedPlan chance text memory agentId floor roomIndex bucket).2
  | .buildRoute roomIndex dest => { memory with routeCache := (Indoors.buildRoute memory.routeCache roomIndex dest).2 }

def remembered (history : List Call) : Memory := history.foldl (Call.run chance text) {}

-- What `idleReference` answers after earlier calls.
def referenceAfter (history : List Call) (agentId : String) (floor roomIndex : Number) (nowMs : ℝ) : IdleReference :=
  (idleReference chance text (remembered chance text history) agentId floor roomIndex nowMs).1

-- The plan without any table.
def freshPlan (agentId : String) (floor roomIndex bucket : Number) : TripPlan :=
  (planTrip chance text .empty agentId floor roomIndex bucket).1

end

end

section
variable (chance : Chance) (text : Number → String)

theorem plan_trip_sound (sound : RoutesSound routes) (agentId : String) (floor roomIndex bucket : Number) :
    (planTrip chance text routes agentId floor roomIndex bucket).1 = freshPlan chance text agentId floor roomIndex bucket ∧
      RoutesSound (planTrip chance text routes agentId floor roomIndex bucket).2 := by
  obtain ⟨route, kept⟩ := build_route_sound sound roomIndex
    (pickDestination text (chance.draw (agentId ++ "|" ++ text bucket) 3) floor roomIndex bucket)
  obtain ⟨fresh, -⟩ := build_route_sound routes_sound_empty roomIndex
    (pickDestination text (chance.draw (agentId ++ "|" ++ text bucket) 3) floor roomIndex bucket)
  refine ⟨?_, kept⟩
  simp only [freshPlan, planTrip, route, fresh]

structure Recalls (memory : Memory) : Prop where
  routes : RoutesSound memory.routeCache
  plans : ∀ agentId cached, memory.planCache.get agentId = some cached →
    cached.plan = freshPlan chance text agentId cached.floor cached.roomIndex cached.bucket

variable {memory : Memory}

theorem recalls_set (recalls : Recalls chance text memory) (sound : RoutesSound routes) (agentId : String)
    (floor roomIndex bucket : Number) :
    Recalls chance text ⟨memory.planCache.set agentId ⟨bucket, floor, roomIndex, freshPlan chance text agentId floor roomIndex bucket⟩,
      routes⟩ := by
  refine ⟨sound, fun other cached found => ?_⟩
  rw [OrderedMap.get_set] at found
  by_cases same : other = agentId
  · rw [if_pos same] at found
    rw [← Option.some.inj found, same]
  · rw [if_neg same] at found
    exact recalls.plans other cached found

theorem cached_plan_recalls (memory : Memory) (recalls : Recalls chance text memory) (agentId : String)
    (floor roomIndex bucket : Number) :
    (cachedPlan chance text memory agentId floor roomIndex bucket).1 = freshPlan chance text agentId floor roomIndex bucket ∧
      Recalls chance text (cachedPlan chance text memory agentId floor roomIndex bucket).2 := by
  obtain ⟨fresh, sound⟩ := plan_trip_sound chance text recalls.routes agentId floor roomIndex bucket
  simp only [cachedPlan, fresh]
  cases found : memory.planCache.get agentId with
  | some hit =>
      simp only
      split
      next same =>
        obtain ⟨⟨buckets, floors⟩, rooms⟩ : (hit.bucket.same bucket = true ∧ hit.floor.same floor = true) ∧
            hit.roomIndex.same roomIndex = true := by simpa using same
        refine ⟨?_, recalls⟩
        rw [recalls.plans agentId hit found, number_same buckets, number_same floors, number_same rooms]
      next => exact ⟨rfl, recalls_set chance text recalls sound agentId floor roomIndex bucket⟩
  | none =>
      refine ⟨rfl, ?_⟩
      simp only
      split
      next =>
        have emptied : Recalls chance text ⟨.empty, memory.routeCache⟩ := ⟨recalls.routes, fun other cached impossible => by cases impossible⟩
        exact recalls_set chance text emptied sound agentId floor roomIndex bucket
      next => exact recalls_set chance text recalls sound agentId floor roomIndex bucket

theorem call_recalls (recalls : Recalls chance text memory) (call : Call) :
    Recalls chance text (call.run chance text memory) := by
  cases call with
  | cachedPlan agentId floor roomIndex bucket => exact (cached_plan_recalls chance text memory recalls agentId floor roomIndex bucket).2
  | buildRoute roomIndex dest => exact ⟨(build_route_sound recalls.routes roomIndex dest).2, recalls.plans⟩

theorem calls_recall (history : List Call) (memory : Memory) (recalls : Recalls chance text memory) :
    Recalls chance text (history.foldl (Call.run chance text) memory) := by
  induction history generalizing memory with
  | nil => exact recalls
  | cons call history ih => exact ih _ (call_recalls chance text recalls call)

theorem remembered_recalls (history : List Call) : Recalls chance text (remembered chance text history) := by
  refine calls_recall chance text history {} ⟨routes_sound_empty, fun agentId cached impossible => ?_⟩
  cases impossible

end

theorem smoothstep_before (x : ℝ) (early : x ≤ 0) : smoothstep x = 0 := by
  simp [smoothstep, max_eq_right early]

theorem smoothstep_after {x : ℝ} (late : 1 ≤ x) : smoothstep x = 1 := by
  have positive : 0 ≤ x := le_trans zero_le_one late
  simp only [smoothstep, max_eq_left positive, min_eq_right late]
  norm_num

theorem smoothstep_bounds (x : ℝ) : 0 ≤ smoothstep x ∧ smoothstep x ≤ 1 := by
  obtain ⟨c, cEq⟩ : ∃ c, c = min (max x 0) 1 := ⟨_, rfl⟩
  have low : 0 ≤ c := cEq ▸ le_min (le_max_right x 0) zero_le_one
  have high : c ≤ 1 := cEq ▸ min_le_right _ _
  simp only [smoothstep, ← cEq]
  norm_num
  constructor
  · apply mul_nonneg (mul_nonneg low low)
    linarith
  · nlinarith [mul_nonneg (mul_nonneg (sub_nonneg.mpr high) (sub_nonneg.mpr high)) low,
      mul_nonneg (sub_nonneg.mpr high) (sub_nonneg.mpr high)]

theorem continuous_smoothstep : Continuous smoothstep := by
  unfold smoothstep
  fun_prop

-- A plan of an agent whose idle spot is `idle`.
structure Fits (idle : Vec2 ℝ) (plan : TripPlan) : Prop where
  laid : Laid idle plan.route
  out : 0 < plan.outMs
  dwell : 0 ≤ plan.dwellMs
  total : plan.totalMs = plan.outMs + plan.dwellMs + plan.outMs
  start : 0 ≤ plan.startMs
  ends : plan.startMs + plan.totalMs < bucketMs

theorem fresh_plan_fits (chance : Chance) (text : Number → String) (agentId : String) (floor roomIndex bucket : Number) :
    Fits (idleSpot roomIndex) (freshPlan chance text agentId floor roomIndex bucket) := by
  obtain ⟨rng, rngEq⟩ : ∃ rng, rng = chance.draw (agentId ++ "|" ++ text bucket) := ⟨_, rfl⟩
  have nonneg (count : Nat) : 0 ≤ rng count := rngEq ▸ chance.nonneg _ count
  have below (count : Nat) : rng count < 1 := rngEq ▸ chance.below _ count
  obtain ⟨route, routeEq⟩ : ∃ route, route = makeRoute roomIndex (pickDestination text (rng 3) floor roomIndex bucket) := ⟨_, rfl⟩
  have laid : Laid (idleSpot roomIndex) route := routeEq ▸ make_route_laid roomIndex _
  obtain ⟨outMs, outEq⟩ : ∃ outMs, outMs = (route.length - route.idleS) / walkSpeed * 1000.0 := ⟨_, rfl⟩
  obtain ⟨dwellMs, dwellEq⟩ : ∃ dwellMs, dwellMs = dwellMinMs + rng 2 * dwellSpanMs := ⟨_, rfl⟩
  have planEq : freshPlan chance text agentId floor roomIndex bucket = ⟨decide (rng 0 < goProbability),
      rng 1 * max 0 (bucketMs - (2.0 * outMs + dwellMs)), outMs, dwellMs, 2.0 * outMs + dwellMs, route⟩ := by
    obtain ⟨built, -⟩ := build_route_sound routes_sound_empty roomIndex (pickDestination text (rng 3) floor roomIndex bucket)
    simp only [freshPlan, planTrip, ← rngEq, built, ← routeEq, ← outEq, ← dwellEq]
  have reach := sub_pos.mpr laid.leaves
  have outBounds : 0 < outMs ∧ outMs < 10000 := by
    have near := laid.near
    rw [outEq, walkSpeed]
    norm_num
    constructor
    · linarith
    · norm_num at near
      linarith
  have dwellBounds : 0 ≤ dwellMs ∧ dwellMs < 9000 := by
    have low := nonneg 2
    have high := below 2
    rw [dwellEq, dwellMinMs, dwellSpanMs]
    norm_num
    constructor <;> linarith
  have slack : 0 < bucketMs - (2.0 * outMs + dwellMs) := by
    rw [bucketMs]
    norm_num
    linarith
  rw [planEq]
  constructor
  · exact laid
  · exact outBounds.1
  · exact dwellBounds.1
  · norm_num
    ring
  · exact mul_nonneg (nonneg 1) (le_max_left _ _)
  · have fraction := mul_lt_mul_of_pos_right (below 1) slack
    simp only [max_eq_right (le_of_lt slack)]
    linarith

section
variable {idle : Vec2 ℝ} {plan : TripPlan}

theorem reference_route (bucket nowMs : ℝ) : (referenceFromPlan plan bucket nowMs).route = plan.route := by
  simp only [referenceFromPlan]
  split
  · rfl
  · split
    · rfl
    · split <;> rfl

theorem reference_within (fits : Fits idle plan) (bucket nowMs : ℝ) :
    plan.route.idleS ≤ (referenceFromPlan plan bucket nowMs).s ∧ (referenceFromPlan plan bucket nowMs).s ≤ plan.route.length := by
  have reach : 0 < plan.route.length - plan.route.idleS := sub_pos.mpr fits.laid.leaves
  have leaves := le_of_lt fits.laid.leaves
  have bounds (x : ℝ) : 0 ≤ (plan.route.length - plan.route.idleS) * smoothstep x ∧
      (plan.route.length - plan.route.idleS) * smoothstep x ≤ plan.route.length - plan.route.idleS := by
    obtain ⟨low, high⟩ := smoothstep_bounds x
    exact ⟨mul_nonneg (le_of_lt reach) low, mul_le_of_le_one_right (le_of_lt reach) high⟩
  simp only [referenceFromPlan]
  split
  · exact ⟨le_refl _, leaves⟩
  · split
    · have inside := bounds ((nowMs - bucket * bucketMs - plan.startMs) / plan.outMs)
      simp only
      constructor <;> linarith
    · split
      · exact ⟨leaves, le_refl _⟩
      · have inside := bounds ((nowMs - bucket * bucketMs - plan.startMs - plan.outMs - plan.dwellMs) / plan.outMs)
        simp only
        constructor <;> linarith

-- The five phases as one formula: a step out and a step back.
theorem reference_formula (fits : Fits idle plan) (goes : plan.goes = true) (bucket nowMs : ℝ) :
    (referenceFromPlan plan bucket nowMs).s = plan.route.idleS + (plan.route.length - plan.route.idleS) *
      (smoothstep ((nowMs - bucket * bucketMs - plan.startMs) / plan.outMs) -
        smoothstep ((nowMs - bucket * bucketMs - plan.startMs - plan.outMs - plan.dwellMs) / plan.outMs)) := by
  have out := fits.out
  have dwell := fits.dwell
  have total := fits.total
  simp only [referenceFromPlan, goes, Bool.true_eq_false, false_or]
  generalize nowMs - bucket * bucketMs - plan.startMs = lapse
  by_cases home : lapse < 0 ∨ plan.totalMs ≤ lapse
  · rw [if_pos home]
    rcases home with early | late
    · rw [smoothstep_before _ (div_nonpos_of_nonpos_of_nonneg (le_of_lt early) (le_of_lt out)),
        smoothstep_before _ (div_nonpos_of_nonpos_of_nonneg (by linarith) (le_of_lt out))]
      simp
    · rw [smoothstep_after ((one_le_div out).mpr (by linarith)), smoothstep_after ((one_le_div out).mpr (by linarith))]
      simp
  · rw [if_neg home]
    by_cases leaving : lapse < plan.outMs
    · rw [if_pos leaving, smoothstep_before ((lapse - plan.outMs - plan.dwellMs) / plan.outMs)
        (div_nonpos_of_nonpos_of_nonneg (by linarith) (le_of_lt out))]
      simp
    · have arrived := smoothstep_after ((one_le_div out).mpr (not_lt.mp leaving))
      rw [if_neg leaving, arrived]
      by_cases staying : lapse < plan.outMs + plan.dwellMs
      · rw [if_pos staying, smoothstep_before ((lapse - plan.outMs - plan.dwellMs) / plan.outMs)
          (div_nonpos_of_nonpos_of_nonneg (by linarith) (le_of_lt out))]
        simp
      · rw [if_neg staying]
        ring

noncomputable def positionOn (plan : TripPlan) (bucket nowMs : ℝ) : ℝ × ℝ :=
  (routePoint plan.route (referenceFromPlan plan bucket nowMs).s).position

theorem reference_home {bucket nowMs : ℝ} (home : plan.goes = false ∨ nowMs - bucket * bucketMs - plan.startMs < 0 ∨
      plan.totalMs ≤ nowMs - bucket * bucketMs - plan.startMs) :
    (referenceFromPlan plan bucket nowMs).s = plan.route.idleS := by
  simp only [referenceFromPlan, if_pos home]

theorem position_continuous (fits : Fits idle plan) (bucket : ℝ) : Continuous (positionOn plan bucket) := by
  cases goes : plan.goes with
  | false =>
      have still : positionOn plan bucket = fun _ => (routePoint plan.route plan.route.idleS).position := by
        funext nowMs
        rw [positionOn, reference_home (.inl goes)]
      rw [still]
      exact continuous_const
  | true =>
      have moving : positionOn plan bucket = (fun s => (routePoint plan.route s).position) ∘ fun nowMs =>
          plan.route.idleS + (plan.route.length - plan.route.idleS) *
            (smoothstep ((nowMs - bucket * bucketMs - plan.startMs) / plan.outMs) -
              smoothstep ((nowMs - bucket * bucketMs - plan.startMs - plan.outMs - plan.dwellMs) / plan.outMs)) := by
        funext nowMs
        rw [positionOn, reference_formula fits goes bucket nowMs]
        rfl
      rw [moving]
      apply (laid_continuous fits.laid).comp
      have step := continuous_smoothstep
      fun_prop

-- At both ends of its bucket an agent is at its idle spot.
theorem position_at_start (fits : Fits idle plan) (bucket : ℝ) : positionOn plan bucket (bucket * bucketMs) = pair idle := by
  rw [positionOn, ← laid_idle_position fits.laid]
  congr 2
  by_cases stays : plan.goes = false
  · exact reference_home (.inl stays)
  · have goes : plan.goes = true := by simpa using stays
    have start := fits.start
    have out := fits.out
    have dwell := fits.dwell
    rw [reference_formula fits goes, smoothstep_before _ (div_nonpos_of_nonpos_of_nonneg (by linarith) (le_of_lt out)),
      smoothstep_before _ (div_nonpos_of_nonpos_of_nonneg (by linarith) (le_of_lt out))]
    simp

theorem position_at_end (fits : Fits idle plan) (bucket : ℝ) : positionOn plan bucket ((bucket + 1) * bucketMs) = pair idle := by
  have ends := fits.ends
  have late : plan.totalMs ≤ (bucket + 1) * bucketMs - bucket * bucketMs - plan.startMs := by linarith
  rw [positionOn, reference_home (.inr (.inr late))]
  exact laid_idle_position fits.laid

end

theorem idle_wandering_continuous (chance : Chance) (text : Number → String) (agentId : String) (floor roomIndex : Number)
    (history : ℝ → List Call) :
    Continuous (fun nowMs =>
      let reference := referenceAfter chance text (history nowMs) agentId floor roomIndex nowMs
      (routePoint reference.route reference.s).position) ∧
    (∀ nowMs, let reference := referenceAfter chance text (history nowMs) agentId floor roomIndex nowMs
      reference.route.idleS ≤ reference.s ∧ reference.s ≤ reference.route.length) ∧
    (∀ nowMs bucket, let plan := (cachedPlan chance text (remembered chance text (history nowMs)) agentId floor roomIndex bucket).1
      0 ≤ plan.startMs ∧ plan.startMs + plan.totalMs < bucketMs) ∧
    ∀ nowMs, referenceAfter chance text (history nowMs) agentId floor roomIndex nowMs =
      referenceFromPlan (freshPlan chance text agentId floor roomIndex (.finite (bucketOf nowMs))) (bucketOf nowMs) nowMs := by
  have recalled (nowMs : ℝ) (bucket : Number) :=
    (cached_plan_recalls chance text _ (remembered_recalls chance text (history nowMs)) agentId floor roomIndex bucket).1
  have fits (bucket : Number) := fresh_plan_fits chance text agentId floor roomIndex bucket
  have same (nowMs : ℝ) : referenceAfter chance text (history nowMs) agentId floor roomIndex nowMs =
      referenceFromPlan (freshPlan chance text agentId floor roomIndex (.finite (bucketOf nowMs))) (bucketOf nowMs) nowMs := by
    simp only [referenceAfter, idleReference, recalled]
  simp only [same, reference_route, recalled]
  refine ⟨?_, ?_, ?_, fun _ => trivial⟩
  · apply continuous_buckets bucketMs (by norm_num [bucketMs])
      (fun bucket nowMs => positionOn (freshPlan chance text agentId floor roomIndex (.finite bucket)) bucket nowMs)
      (fun bucket => position_continuous (fits _) bucket)
    intro bucket
    have next := position_at_start (fits (.finite (bucket + 1 : Int))) (bucket + 1 : Int)
    have last := position_at_end (fits (.finite bucket)) bucket
    push_cast at next last ⊢
    rw [last, next]
  · intro nowMs
    exact reference_within (fits _) _ nowMs
  · intro nowMs bucket
    exact ⟨(fits bucket).start, (fits bucket).ends⟩

end AiWorld.Indoors
