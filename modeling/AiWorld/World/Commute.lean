import AiWorld.Projects.Lots
import AiWorld.World.ShortestPath
import AiWorld.World.Town

set_option autoImplicit false

namespace AiWorld.World

open AiWorld.Projects

inductive Place where
  | residence
  | hall
  | project (projectId : String)
deriving DecidableEq

inductive VehicleKind where
  | walk
  | bicycle
  | motorbike
deriving DecidableEq

def placeKey : Place → String
  | .residence => "residence"
  | .hall => "hall"
  | .project projectId => "project:" ++ projectId

def placeEquals (a b : Place) : Bool := placeKey a == placeKey b

theorem place_equals_iff (a b : Place) : placeEquals a b = true ↔ a = b := by
  unfold placeEquals
  rw [beq_iff_eq]
  constructor
  · intro same
    have letters := congrArg String.toList same
    cases a <;> cases b <;> simp [placeKey] at letters same ⊢
    exact same
  · intro same
    rw [same]

section Machine

variable {K : Type} [Field K] [LinearOrder K]

def speedOf : VehicleKind → K
  | .walk => 1.1
  | .bicycle => 4.2
  | .motorbike => 9.5

def walkMaxM : K := 14

def bicycleMaxM : K := 40

def vehicleFor (distanceMeters : K) (agentId : String) : VehicleKind :=
  let jitter : K := ((hashString agentId % 7 : Nat) : K) - 3
  let adjusted := distanceMeters + jitter
  if adjusted ≤ walkMaxM then .walk
  else if adjusted ≤ bicycleMaxM then .bicycle
  else .motorbike

variable (distance : Vec2 K → Vec2 K → K)

def pathLength : List (Vec2 K) → K
  | a :: b :: rest => distance a b + pathLength (b :: rest)
  | _ => 0

variable (town : TownPlan K)

-- A lot map of the town only has lots of the town.
abbrev LotOf := String → Option (Fin town.lots.length)

def resolvePlaceNode (lotOf : LotOf town) : Place → String
  | .residence => residenceNode
  | .hall => hallNode
  | .project projectId =>
      match lotOf projectId with
      | none => hallNode
      | some lotIndex => (town.lots.get lotIndex).roadNode

structure CommuteState (K : Type) where
  place : Place
  placeNode : String
  target : Place
  targetNode : String
  path : Option (List (Vec2 K))
  startMs : K
  distance : K
  vehicle : VehicleKind

def settledAt (place : Place) (node : String) (nowMs : K) : CommuteState K :=
  ⟨place, node, place, node, none, nowMs, 0, .walk⟩

def initCommute (place : Place) (lotOf : LotOf town) : CommuteState K := settledAt place (resolvePlaceNode town lotOf place) 0

def travelMs (state : CommuteState K) : K := state.distance / speedOf state.vehicle * 1000

-- `null` for a trip to the node the twin stands at.
def route (placeNode toNode : String) : Option (List (Vec2 K)) :=
  if placeNode = toNode then none else shortestPath town.roads placeNode toNode

def startTrip (standing : CommuteState K) (place : Place) (agentId : String) (lotOf : LotOf town) (nowMs : K) : CommuteState K :=
  let toNode := resolvePlaceNode town lotOf place
  match route town standing.placeNode toNode with
  | none => settledAt place toNode nowMs
  | some path =>
      let length := pathLength distance path
      if length ≤ 0 then settledAt place toNode nowMs
      else
        { place := standing.place, placeNode := standing.placeNode, target := place, targetNode := toNode, path := some path
          startMs := nowMs, distance := length, vehicle := vehicleFor length agentId }

-- The trip in progress is over at `nowMs`.
def finishes (state : CommuteState K) (nowMs : K) : Bool := state.path.isSome && decide (travelMs state ≤ nowMs - state.startMs)

def arrive (state : CommuteState K) (nowMs : K) : CommuteState K :=
  if finishes state nowMs then { state with place := state.target, placeNode := state.targetNode, path := none } else state

def stepCommute (prev : CommuteState K) (desired : Place) (agentId : String) (lotOf : LotOf town) (nowMs : K)
    (reducedMotion : Bool) : CommuteState K :=
  if reducedMotion then
    if prev.path.isNone && placeEquals prev.place desired && placeEquals prev.target desired then prev
    else settledAt desired (resolvePlaceNode town lotOf desired) nowMs
  else
    let state := arrive prev nowMs
    if state.path.isSome || placeEquals state.place desired then state
    else startTrip distance town state desired agentId lotOf nowMs

def isArrivedAt (state : CommuteState K) (place : Place) : Bool := state.path.isNone && placeEquals state.place place

end Machine

end AiWorld.World
