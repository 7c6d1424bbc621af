import AiWorld.Projects.Allocation
import AiWorld.World.Town

set_option autoImplicit false

namespace AiWorld.World

open AiWorld.Projects

inductive RoofStyle where
  | flat
  | pyramid
  | step
deriving DecidableEq

def roofStyles : List RoofStyle := [.flat, .pyramid, .step]

def paletteCount : Nat := 8

structure BuildingSpec where
  floors : Nat
  width : ℚ
  depth : ℚ
  roof : RoofStyle
  palette : Nat
deriving DecidableEq

def minFloors : Nat := 2

def floorSpan : Nat := 4

def minFootprint : ℚ := 72 / 100

def footprintStep : ℚ := 6 / 100

def buildingSpec (projectId : String) (lotIndex : Nat) : BuildingSpec :=
  let h := hashString projectId
  let widthScale := minFootprint + ((h >>> 3) % 4 : Nat) * footprintStep
  let depthScale := minFootprint + ((h >>> 6) % 4 : Nat) * footprintStep
  { floors := minFloors + h % floorSpan
    width := lotWidth * widthScale
    depth := lotWidth * depthScale
    roof := roofStyles.getD ((h >>> 9) % roofStyles.length) .flat
    palette := ((h >>> 12) + lotIndex) % paletteCount }

structure Footprint (K : Type) where
  key : String
  minX : K
  maxX : K
  minZ : K
  maxZ : K
deriving DecidableEq

structure Door where
  key : String
  x : ℚ
  z : ℚ
deriving DecidableEq

structure WorldProject where
  id : String
  code : String
  status : String
deriving DecidableEq

def buildingWidth : ℚ := 4 * (24 / 10)

def residenceFootprint : Footprint ℚ :=
  ⟨"residence", -buildingWidth / 2 - 15 / 100, buildingWidth / 2 + 15 / 100, -13 / 10, 225 / 100⟩

def hallFootprint : Footprint ℚ :=
  let center : Vec2 ℚ := hallCenter
  ⟨"hall", center.x - hallWidth / 2, center.x + hallWidth / 2, center.z - hallDepth / 2, center.z + hallDepth / 2⟩

abbrev LotMap := AList (fun _ : String => Nat)

-- Reading the centre of a lot that the town does not have throws.
def buildingAt {α : Type} (place : String → Vec2 ℚ → BuildingSpec → α) (lotOf : LotMap) (project : WorldProject) :
    Option (Option α) :=
  match lotOf.lookup project.id with
  | none => some none
  | some lotIndex =>
      (allLotSlots : List (LotSlot ℚ))[lotIndex]?.map (fun slot =>
        some (place project.id slot.center (buildingSpec project.id lotIndex)))

def buildings {α : Type} (place : String → Vec2 ℚ → BuildingSpec → α) (projects : List WorldProject) (lotOf : LotMap) :
    Option (List α) :=
  (projects.mapM (buildingAt place lotOf)).map (fun placed => placed.filterMap id)

def footprintOf (key : String) (center : Vec2 ℚ) (spec : BuildingSpec) : Footprint ℚ :=
  ⟨key, center.x - spec.width / 2, center.x + spec.width / 2, center.z - spec.depth / 2, center.z + spec.depth / 2⟩

def footprints (projects : List WorldProject) (lotOf : LotMap) : Option (List (Footprint ℚ)) :=
  (buildings footprintOf projects lotOf).map (fun list => residenceFootprint :: hallFootprint :: list)

def doorOf (key : String) (center : Vec2 ℚ) (spec : BuildingSpec) : Door := ⟨key, center.x, center.z + spec.depth / 2⟩

def buildingDoors (projects : List WorldProject) (lotOf : LotMap) : Option (List Door) := buildings doorOf projects lotOf

def projectSignature (projects : List WorldProject) : String :=
  "|".intercalate (projects.map (fun project => project.id ++ ":" ++ project.code))

end AiWorld.World
