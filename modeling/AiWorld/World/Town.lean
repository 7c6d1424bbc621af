import AiWorld.World.Roads
import Mathlib.Algebra.Order.Field.Rat

set_option autoImplicit false

namespace AiWorld.World

variable {K : Type} [Field K]

def lotsPerStreet : Nat := 8

def streetCount : Nat := 6

def mainStreetIndex : Nat := 0

def lotWidth : K := 56 / 10

def lotDepth : K := 56 / 10

def lotGap : K := 24 / 10

def lotSpacing : K := lotWidth + lotGap

def streetSpacing : K := 11

def townZStart : K := 22

def avenueMargin : K := 4

def roadHalfWidth : K := 12 / 10

def sidewalkWidth : K := 6 / 10

def lotSetback : K := roadHalfWidth + sidewalkWidth + lotDepth / 2

def streetHalfLength : K := lotsPerStreet * lotSpacing / 2

def streetZ (street : Nat) : K := townZStart + street * streetSpacing

def lotFrontX (lotInStreet : Nat) : K := -streetHalfLength + lotSpacing / 2 + lotInStreet * lotSpacing

def residenceNode : String := "residence"

def gateNode : String := "gate"

def hallNode : String := "hall"

def roomDepth : K := 22 / 10

def lobbySpotZ : K := roomDepth / 2 + 55 / 100

def residenceEntrance : Vec2 K := ⟨0, lobbySpotZ + 15 / 10⟩

def hallPosition : Vec2 K := ⟨streetHalfLength + avenueMargin + 10, streetZ mainStreetIndex⟩

def hallWidth : K := 9

def hallDepth : K := 7

def hallCenter : Vec2 K := ⟨(hallPosition : Vec2 K).x, (hallPosition : Vec2 K).z - (roadHalfWidth + sidewalkWidth + hallDepth / 2)⟩

structure LotSlot (K : Type) where
  index : Nat
  street : Nat
  lotInStreet : Nat
  center : Vec2 K
  roadNode : String

def westEndNode (street : Nat) : String := "w" ++ toString street

def eastEndNode (street : Nat) : String := "e" ++ toString street

def lotNode (street lotInStreet : Nat) : String := "lot-" ++ toString street ++ "-" ++ toString lotInStreet

def lotSlot (street lotInStreet : Nat) : LotSlot K where
  index := street * lotsPerStreet + lotInStreet
  street := street
  lotInStreet := lotInStreet
  center := ⟨lotFrontX lotInStreet, streetZ street - lotSetback⟩
  roadNode := lotNode street lotInStreet

def allLotSlots : List (LotSlot K) :=
  (List.range streetCount).flatMap (fun street => (List.range lotsPerStreet).map (fun lotInStreet => lotSlot street lotInStreet))

structure TownPlan (K : Type) where
  lots : List (LotSlot K)
  roads : RoadGraph K

-- The calls for one lot of a street, given the node before it.
def lotCalls (street : Nat) (prev : String) (lotInStreet : Nat) : List (Call K) :=
  let id := lotNode street lotInStreet
  let node : Call K := .node id ⟨lotFrontX lotInStreet, streetZ street⟩
  if street = mainStreetIndex ∧ lotInStreet = lotsPerStreet / 2 then
    [node, .node gateNode ⟨0, streetZ street⟩, .edge prev gateNode, .edge gateNode id]
  else [node, .edge prev id]

def streetLotCalls (street : Nat) : String → List Nat → List (Call K)
  | prev, [] => [.edge prev (eastEndNode street)]
  | prev, lotInStreet :: rest => lotCalls street prev lotInStreet ++ streetLotCalls street (lotNode street lotInStreet) rest

def streetCalls (street : Nat) : List (Call K) :=
  [.node (westEndNode street) ⟨-streetHalfLength - avenueMargin, streetZ street⟩,
    .node (eastEndNode street) ⟨streetHalfLength + avenueMargin, streetZ street⟩] ++
    streetLotCalls street (westEndNode street) (List.range lotsPerStreet)

def avenueCalls (street : Nat) : List (Call K) :=
  [.edge (westEndNode street) (westEndNode (street + 1)), .edge (eastEndNode street) (eastEndNode (street + 1))]

def townCalls : List (Call K) :=
  [.node residenceNode residenceEntrance, .node hallNode hallPosition] ++
    (List.range streetCount).flatMap streetCalls ++ (List.range (streetCount - 1)).flatMap avenueCalls ++
    [.edge residenceNode gateNode, .edge hallNode (eastEndNode mainStreetIndex)]

def buildTownPlan (distance : Vec2 K → Vec2 K → K) : Except String (TownPlan K) := do
  let roads ← build distance townCalls
  return ⟨allLotSlots, roads⟩

end AiWorld.World
