import AiWorld.Geometry.Polyline
import AiWorld.Text.Numerals
import AiWorld.World.Layout
import Mathlib.Analysis.InnerProductSpace.Basic

set_option autoImplicit false

namespace AiWorld.Indoors

open AiWorld.World (Vec2)
open AiWorld.Polyline

variable {roomIndex other : Number}

inductive DestinationKind where
  | lobby
  | strollLeft
  | strollRight
deriving DecidableEq

structure Destination where
  kind : DestinationKind
  spot : Int
deriving DecidableEq

structure Route where
  key : String
  points : List (Vec2 ℝ)
  cumulative : List ℝ
  length : ℝ
  idleS : ℝ
  laneS : ℝ

structure RoutePoint where
  x : ℝ
  z : ℝ
  dx : ℝ
  dz : ℝ

def destinationKey (dest : Destination) : String :=
  match dest.kind with
  | .lobby => "lobby:" ++ toString dest.spot
  | .strollLeft => "strollLeft"
  | .strollRight => "strollRight"

noncomputable section

def minSegment : ℝ := 1e-3

-- The index wraps around on both sides; `%` takes the sign of the dividend.
def destinationX (dest : Destination) : ℝ :=
  match dest.kind with
  | .lobby =>
      let places : Int := lobbySpotXs.length
      lobbySpotXs.getD ((dest.spot.tmod places + places).tmod places).toNat 0
  | .strollLeft => -corridorEndX
  | .strollRight => corridorEndX

def destinationPoints (dest : Destination) : List (Vec2 ℝ) :=
  [⟨destinationX dest, corridorLaneZ⟩, ⟨destinationX dest, lobbySpotZ⟩]

def distance (a b : Vec2 ℝ) : ℝ := Real.sqrt ((b.x - a.x) * (b.x - a.x) + (b.z - a.z) * (b.z - a.z))

def pushPoint (points : List (Vec2 ℝ)) (next : Vec2 ℝ) : List (Vec2 ℝ) :=
  if minSegment < distance (points.getLastD next) next then points ++ [next] else points

def routePoints (room : Int) (dest : Destination) : List (Vec2 ℝ) :=
  let anchors := roomAnchors 1 room
  (destinationPoints dest).foldl pushPoint
    [anchors.desk.flat, anchors.idle.flat, anchors.door.flat, ⟨anchors.door.x, corridorLaneZ⟩]

def cumulate (last : Vec2 ℝ) (total : ℝ) : List (Vec2 ℝ) → List ℝ
  | [] => [total]
  | next :: rest => total :: cumulate next (total + distance last next) rest

def cumulativeOf : List (Vec2 ℝ) → List ℝ
  | [] => []
  | first :: rest => cumulate first 0 rest

def routeKey (roomIndex : Number) (dest : Destination) : String :=
  toString (clampRoomIndex roomIndex) ++ "|" ++ destinationKey dest

-- What `buildRoute` builds when it has not cached the route.
def makeRoute (roomIndex : Number) (dest : Destination) : Route :=
  let points := routePoints (clampRoomIndex roomIndex) dest
  let cumulative := cumulativeOf points
  ⟨routeKey roomIndex dest, points, cumulative, cumulative.getLastD 0, cumulative.getD 1 0, cumulative.getD 3 0⟩

abbrev RouteCache := OrderedMap String Route

def buildRoute (cache : RouteCache) (roomIndex : Number) (dest : Destination) : Route × RouteCache :=
  match cache.get (routeKey roomIndex dest) with
  | some cached => (cached, cache)
  | none => (makeRoute roomIndex dest, cache.set (routeKey roomIndex dest) (makeRoute roomIndex dest))

-- Every route has more than two points.
def routePoint (route : Route) (s : ℝ) : RoutePoint :=
  let clamped := min (max s 0) route.length
  match List.zipWith Knot.mk route.cumulative route.points with
  | a :: b :: rest =>
      let segment := seek clamped a b rest
      let span := segment.2.place - segment.1.place
      let t := if 0 < span then (clamped - segment.1.place) / span else 0
      let between := distance segment.1.point segment.2.point
      let len := if between = 0 then 1 else between
      ⟨segment.1.point.x + (segment.2.point.x - segment.1.point.x) * t,
        segment.1.point.z + (segment.2.point.z - segment.1.point.z) * t,
        (segment.2.point.x - segment.1.point.x) / len, (segment.2.point.z - segment.1.point.z) / len⟩
  | _ => ⟨0, 0, 0, 0⟩

def RoutePoint.position (point : RoutePoint) : ℝ × ℝ := (point.x, point.z)

end

theorem distance_le (a b : Vec2 ℝ) : distance a b ≤ |b.x - a.x| + |b.z - a.z| := by
  apply Real.sqrt_le_iff.mpr
  constructor
  · positivity
  · have x := abs_mul_abs_self (b.x - a.x)
    have z := abs_mul_abs_self (b.z - a.z)
    have cross := mul_nonneg (abs_nonneg (b.x - a.x)) (abs_nonneg (b.z - a.z))
    nlinarith

theorem abs_z_le_distance (a b : Vec2 ℝ) : |b.z - a.z| ≤ distance a b := by
  apply Real.le_sqrt_of_sq_le
  rw [sq_abs]
  have square := mul_self_nonneg (b.x - a.x)
  nlinarith

-- Every two neighbouring points are apart.
def Spaced (last : Vec2 ℝ) : List (Vec2 ℝ) → Prop
  | [] => True
  | next :: rest => 0 < distance last next ∧ Spaced next rest

noncomputable def pathLength (last : Vec2 ℝ) : List (Vec2 ℝ) → ℝ
  | [] => 0
  | next :: rest => distance last next + pathLength next rest

theorem cumulate_last (last : Vec2 ℝ) (total : ℝ) (rest : List (Vec2 ℝ)) (other : ℝ) :
    (cumulate last total rest).getLastD other = total + pathLength last rest := by
  induction rest generalizing last total other with
  | nil => simp [cumulate, pathLength]
  | cons next rest ih =>
      rw [cumulate, List.getLastD_cons, ih next (total + distance last next) total, pathLength]
      exact add_assoc _ _ _

theorem path_length_nonneg (last : Vec2 ℝ) (rest : List (Vec2 ℝ)) : 0 ≤ pathLength last rest := by
  induction rest generalizing last with
  | nil => exact le_refl 0
  | cons next rest ih => exact add_nonneg (Real.sqrt_nonneg _) (ih next)

-- The knots of spaced points rise.
theorem knots_rising (last next : Vec2 ℝ) (total : ℝ) (rest : List (Vec2 ℝ)) (spaced : Spaced last (next :: rest)) :
    ∃ knots, List.zipWith Knot.mk (cumulate last total (next :: rest)) (last :: next :: rest) =
        ⟨total, last⟩ :: ⟨total + distance last next, next⟩ :: knots ∧
      Rising ⟨total, last⟩ ⟨total + distance last next, next⟩ knots := by
  induction rest generalizing last next total with
  | nil => exact ⟨[], rfl, lt_add_of_pos_right total spaced.1⟩
  | cons further rest ih =>
      obtain ⟨knots, same, rising⟩ := ih next further (total + distance last next) spaced.2
      refine ⟨⟨total + distance last next + distance next further, further⟩ :: knots, ?_, lt_add_of_pos_right total spaced.1, rising⟩
      rw [cumulate, List.zipWith_cons_cons, same]

theorem destination_x_bounds (dest : Destination) : -4.35 ≤ destinationX dest ∧ destinationX dest ≤ 4.35 := by
  obtain ⟨kind, spot⟩ := dest
  cases kind with
  | lobby =>
      have inside : ∀ index, -4.35 ≤ lobbySpotXs.getD index 0 ∧ lobbySpotXs.getD index 0 ≤ 4.35 := by
        intro index
        match index with
        | 0 => norm_num [lobbySpotXs]
        | 1 => norm_num [lobbySpotXs]
        | 2 => norm_num [lobbySpotXs]
        | 3 => norm_num [lobbySpotXs]
        | index + 4 => norm_num [lobbySpotXs]
      exact inside _
  | strollLeft => norm_num [destinationX, corridorEndX, buildingWidth, roomWidth, roomsPerFloor]
  | strollRight => norm_num [destinationX, corridorEndX, buildingWidth, roomWidth, roomsPerFloor]

-- The line from the corridor lane in front of the room to the destination.
theorem lane_to_destination (front : List (Vec2 ℝ)) (lane : Vec2 ℝ) (dest : Destination) (height : lane.z = corridorLaneZ) :
    ∃ more, (destinationPoints dest).foldl pushPoint (front ++ [lane]) = front ++ lane :: more ∧ Spaced lane more ∧
      pathLength lane more ≤ |destinationX dest - lane.x| + 0.2 := by
  have rise : lobbySpotZ - corridorLaneZ = 0.2 := by
    simp only [lobbySpotZ, corridorLaneZ]
    norm_num
  have segment : minSegment < 0.2 := by norm_num [minSegment]
  have positive : 0 < minSegment := by norm_num [minSegment]
  have climbs (start : Vec2 ℝ) (level : start.z = corridorLaneZ) : minSegment < distance start ⟨destinationX dest, lobbySpotZ⟩ := by
    refine lt_of_lt_of_le ?_ (abs_z_le_distance start ⟨destinationX dest, lobbySpotZ⟩)
    simp only [level, rise]
    norm_num [minSegment]
  simp only [destinationPoints, List.foldl_cons, List.foldl_nil]
  by_cases far : minSegment < distance lane ⟨destinationX dest, corridorLaneZ⟩
  · have first : pushPoint (front ++ [lane]) ⟨destinationX dest, corridorLaneZ⟩ =
        front ++ [lane] ++ [⟨destinationX dest, corridorLaneZ⟩] := by
      rw [pushPoint, List.getLastD_concat, if_pos far]
    have second : minSegment < distance (⟨destinationX dest, corridorLaneZ⟩ : Vec2 ℝ) ⟨destinationX dest, lobbySpotZ⟩ := climbs _ rfl
    refine ⟨[⟨destinationX dest, corridorLaneZ⟩, ⟨destinationX dest, lobbySpotZ⟩], ?_, ?_, ?_⟩
    · rw [first, pushPoint, List.getLastD_concat, if_pos second]
      simp
    · exact ⟨lt_trans positive far, lt_trans positive second, trivial⟩
    · have along := distance_le lane ⟨destinationX dest, corridorLaneZ⟩
      have up := distance_le (⟨destinationX dest, corridorLaneZ⟩ : Vec2 ℝ) ⟨destinationX dest, lobbySpotZ⟩
      simp only [height, sub_self, abs_zero, rise] at along up
      norm_num at along up
      simp only [pathLength]
      linarith
  · have first : pushPoint (front ++ [lane]) ⟨destinationX dest, corridorLaneZ⟩ = front ++ [lane] := by
      rw [pushPoint, List.getLastD_concat, if_neg far]
    have second := climbs lane height
    refine ⟨[⟨destinationX dest, lobbySpotZ⟩], ?_, ?_, ?_⟩
    · rw [first, pushPoint, List.getLastD_concat, if_pos second]
      simp
    · exact ⟨lt_trans positive second, trivial⟩
    · have along := distance_le lane ⟨destinationX dest, lobbySpotZ⟩
      simp only [height, rise] at along
      norm_num at along
      simp only [pathLength]
      linarith

theorem anchors_spaced (room : Int) :
    0 < distance (roomAnchors 1 room).desk.flat (roomAnchors 1 room).idle.flat ∧
      (0 < distance (roomAnchors 1 room).idle.flat (roomAnchors 1 room).door.flat ∧
        distance (roomAnchors 1 room).idle.flat (roomAnchors 1 room).door.flat ≤ 1.45) ∧
      0 < distance (roomAnchors 1 room).door.flat ⟨(roomAnchors 1 room).door.x, corridorLaneZ⟩ ∧
        distance (roomAnchors 1 room).door.flat ⟨(roomAnchors 1 room).door.x, corridorLaneZ⟩ ≤ 0.5 := by
  refine ⟨?_, ⟨?_, ?_⟩, ?_, ?_⟩
  · refine lt_of_lt_of_le ?_ (abs_z_le_distance _ _)
    norm_num [roomAnchors, Vec3.flat]
  · refine lt_of_lt_of_le ?_ (abs_z_le_distance _ _)
    norm_num [roomAnchors, Vec3.flat, roomDepth]
  · refine le_trans (distance_le _ _) ?_
    norm_num [roomAnchors, Vec3.flat, roomDepth]
  · refine lt_of_lt_of_le ?_ (abs_z_le_distance _ _)
    norm_num [roomAnchors, Vec3.flat, roomDepth, corridorLaneZ]
  · refine le_trans (distance_le _ _) ?_
    norm_num [roomAnchors, Vec3.flat, roomDepth, corridorLaneZ]

-- A route of a room: it passes the idle spot, and what is left from there is not long.
structure Laid (idle : Vec2 ℝ) (route : Route) : Prop where
  knots : ∃ desk rest, List.zipWith Knot.mk route.cumulative route.points = ⟨0, desk⟩ :: ⟨route.idleS, idle⟩ :: rest ∧
    Rising ⟨0, desk⟩ ⟨route.idleS, idle⟩ rest
  leaves : route.idleS < route.length
  near : route.length - route.idleS ≤ 10.1

noncomputable def idleSpot (roomIndex : Number) : Vec2 ℝ := (roomAnchors 1 (clampRoomIndex roomIndex)).idle.flat

theorem make_route_laid (roomIndex : Number) (dest : Destination) : Laid (idleSpot roomIndex) (makeRoute roomIndex dest) := by
  obtain ⟨first, last⟩ := clamp_room_index_bounds roomIndex
  obtain ⟨westWall, eastWall⟩ := room_center_bounds first last
  obtain ⟨westEnd, eastEnd⟩ := destination_x_bounds dest
  obtain ⟨anchors, anchorsEq⟩ : ∃ anchors, anchors = roomAnchors 1 (clampRoomIndex roomIndex) := ⟨_, rfl⟩
  obtain ⟨lane, laneEq⟩ : ∃ lane : Vec2 ℝ, lane = ⟨anchors.door.x, corridorLaneZ⟩ := ⟨_, rfl⟩
  obtain ⟨more, points, spaced, short⟩ := lane_to_destination [anchors.desk.flat, anchors.idle.flat, anchors.door.flat] lane dest
    (by rw [laneEq])
  have pointsEq : (makeRoute roomIndex dest).points = anchors.desk.flat :: anchors.idle.flat :: anchors.door.flat :: lane :: more := by
    rw [makeRoute, routePoints, ← anchorsEq, ← laneEq]
    exact points
  have cumulativeEq : (makeRoute roomIndex dest).cumulative =
      cumulate anchors.desk.flat 0 (anchors.idle.flat :: anchors.door.flat :: lane :: more) := by
    have same : (makeRoute roomIndex dest).cumulative = cumulativeOf (makeRoute roomIndex dest).points := rfl
    rw [same, pointsEq, cumulativeOf]
  have idleEq : (makeRoute roomIndex dest).idleS = 0 + distance anchors.desk.flat anchors.idle.flat := by
    have same : (makeRoute roomIndex dest).idleS = (makeRoute roomIndex dest).cumulative.getD 1 0 := rfl
    rw [same, cumulativeEq]
    rfl
  have lengthEq : (makeRoute roomIndex dest).length =
      0 + pathLength anchors.desk.flat (anchors.idle.flat :: anchors.door.flat :: lane :: more) := by
    have same : (makeRoute roomIndex dest).length = (makeRoute roomIndex dest).cumulative.getLastD 0 := rfl
    rw [same, cumulativeEq, cumulate_last]
  obtain ⟨deskIdle, ⟨idleDoor, idleDoorNear⟩, doorLane, doorLaneNear⟩ := anchors_spaced (clampRoomIndex roomIndex)
  rw [← anchorsEq] at deskIdle idleDoor idleDoorNear doorLane doorLaneNear
  rw [← laneEq] at doorLane doorLaneNear
  have onward := path_length_nonneg lane more
  simp only [pathLength] at lengthEq
  constructor
  · obtain ⟨rest, knots, rising⟩ := knots_rising anchors.desk.flat anchors.idle.flat 0 (anchors.door.flat :: lane :: more)
      ⟨deskIdle, idleDoor, doorLane, spaced⟩
    rw [idleSpot, ← anchorsEq, cumulativeEq, pointsEq, idleEq]
    exact ⟨anchors.desk.flat, rest, knots, rising⟩
  · rw [idleEq, lengthEq]
    linarith
  · have center : lane.x = roomCenterX (clampRoomIndex roomIndex) := by
      rw [laneEq, anchorsEq]
      rfl
    have across : |destinationX dest - lane.x| ≤ 7.95 := by
      rw [center, abs_le]
      constructor <;> linarith
    rw [idleEq, lengthEq]
    linarith

section
variable {idle : Vec2 ℝ} {route : Route}

noncomputable def pair (point : Vec2 ℝ) : ℝ × ℝ := (point.x, point.z)

theorem laid_idle_positive (laid : Laid idle route) : 0 < route.idleS := by
  obtain ⟨desk, rest, -, rising⟩ := laid.knots
  exact rising_first rising

-- The position on a route is the interpolation of its points.
theorem laid_position (laid : Laid idle route) : ∃ desk rest, Rising ⟨0, pair desk⟩ ⟨route.idleS, pair idle⟩ rest ∧
    ∀ s, (routePoint route s).position =
      interpolate ⟨0, pair desk⟩ ⟨route.idleS, pair idle⟩ rest (min (max s 0) route.length) := by
  obtain ⟨desk, rest, knots, rising⟩ := laid.knots
  refine ⟨desk, rest.map (Knot.map pair), ?_, fun s => ?_⟩
  · exact rising_map pair _ _ rising
  · have span := sub_pos.mpr (seek_rising (min (max s 0) route.length) _ _ rising)
    have mapped := seek_map pair (min (max s 0) route.length) ⟨0, desk⟩ ⟨route.idleS, idle⟩ rest
    simp only [Knot.map] at mapped
    rw [interpolate, mapped]
    simp only [routePoint, knots, if_pos span, RoutePoint.position, between, pair]
    ext
    · simp
      ring
    · simp
      ring

theorem laid_continuous (laid : Laid idle route) : Continuous (fun s => (routePoint route s).position) := by
  obtain ⟨desk, rest, rising, same⟩ := laid_position laid
  have position : (fun s => (routePoint route s).position) =
      fun s => interpolate ⟨0, pair desk⟩ ⟨route.idleS, pair idle⟩ rest (min (max s 0) route.length) := funext same
  rw [position]
  apply (continuous_interpolate _ _ rising).comp
  exact (continuous_id.max continuous_const).min continuous_const

theorem laid_idle_position (laid : Laid idle route) : (routePoint route route.idleS).position = pair idle := by
  obtain ⟨desk, rest, rising, same⟩ := laid_position laid
  have clamped : min (max route.idleS 0) route.length = route.idleS := by
    rw [max_eq_left (le_of_lt (laid_idle_positive laid)), min_eq_left (le_of_lt laid.leaves)]
  rw [same, clamped]
  exact interpolate_second rising

end

theorem room_text_length (roomIndex : Number) : (toString (clampRoomIndex roomIndex)).toList.length = 1 := by
  have bounds := clamp_room_index_bounds roomIndex
  generalize clampRoomIndex roomIndex = room at bounds
  have cases : room = 1 ∨ room = 2 ∨ room = 3 ∨ room = 4 := by omega
  rcases cases with rfl | rfl | rfl | rfl <;> rfl

variable {goal : Destination}

theorem route_key_parts {dest : Destination} (same : routeKey roomIndex dest = routeKey other goal) :
    clampRoomIndex roomIndex = clampRoomIndex other ∧ destinationKey dest = destinationKey goal := by
  have letters := congrArg String.toList same
  simp only [routeKey, String.toList_append, List.append_assoc] at letters
  obtain ⟨rooms, rest⟩ := List.append_inj letters (by rw [room_text_length, room_text_length])
  refine ⟨Numerals.int_text_injective (String.toList_injective rooms), ?_⟩
  exact String.toList_injective (List.append_cancel_left rest)

theorem destination_key_place {dest : Destination} (same : destinationKey dest = destinationKey goal) :
    destinationX dest = destinationX goal := by
  obtain ⟨kind, spot⟩ := dest
  obtain ⟨goalKind, goalSpot⟩ := goal
  have letters := congrArg String.toList same
  cases kind <;> cases goalKind <;> simp [destinationKey] at letters
  · have spots : spot = goalSpot := Numerals.int_text_injective (String.toList_injective letters)
    rw [spots]
  · rfl
  · rfl

-- Two keys are equal only for rooms and destinations with the same route.
theorem route_key_determines {dest : Destination} (same : routeKey roomIndex dest = routeKey other goal) :
    makeRoute roomIndex dest = makeRoute other goal := by
  obtain ⟨rooms, keys⟩ := route_key_parts same
  have points : routePoints (clampRoomIndex roomIndex) dest = routePoints (clampRoomIndex other) goal := by
    rw [rooms, routePoints, routePoints, destinationPoints, destinationPoints, destination_key_place keys]
  rw [makeRoute, makeRoute, same, points]

-- Every cached route is the one its key stands for.
def RoutesSound (cache : RouteCache) : Prop :=
  ∀ roomIndex dest route, cache.get (routeKey roomIndex dest) = some route → route = makeRoute roomIndex dest

theorem routes_sound_empty : RoutesSound .empty := by
  intro roomIndex dest route found
  cases found

theorem build_route_sound {cache : RouteCache} (sound : RoutesSound cache) (roomIndex : Number) (dest : Destination) :
    (buildRoute cache roomIndex dest).1 = makeRoute roomIndex dest ∧ RoutesSound (buildRoute cache roomIndex dest).2 := by
  rw [buildRoute]
  cases found : cache.get (routeKey roomIndex dest) with
  | some cached => exact ⟨sound roomIndex dest cached found, sound⟩
  | none =>
      refine ⟨rfl, fun other goal route stored => ?_⟩
      rw [OrderedMap.get_set] at stored
      by_cases same : routeKey other goal = routeKey roomIndex dest
      · rw [if_pos same] at stored
        rw [← Option.some.inj stored]
        exact (route_key_determines same).symm
      · rw [if_neg same] at stored
        exact sound other goal route stored

end AiWorld.Indoors
