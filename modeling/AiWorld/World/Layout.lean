import AiWorld.World.Roads
import Mathlib.Algebra.Order.Archimedean.Real.Basic
import Mathlib.Analysis.Real.Sqrt
import Mathlib.Tactic.Linarith
import Mathlib.Tactic.NormNum

set_option autoImplicit false

namespace AiWorld.Indoors

open AiWorld.World (Vec2)

-- A number of the source: an exact one, or one that is not finite.
inductive Number where
  | finite (value : ℝ)
  | infinite (negative : Bool)
  | nan

structure Vec3 where
  x : ℝ
  y : ℝ
  z : ℝ

def Vec3.flat (point : Vec3) : Vec2 ℝ := ⟨point.x, point.z⟩

noncomputable section

-- `===`, by which a NaN equals nothing.
def Number.same : Number → Number → Bool
  | .finite a, .finite b => a = b
  | .infinite a, .infinite b => a = b
  | _, _ => false

def roomsPerFloor : Int := 4

def roomWidth : ℝ := 2.4

def roomDepth : ℝ := 2.2

def floorHeight : ℝ := 1.9

def buildingWidth : ℝ := roomsPerFloor * roomWidth

def corridorLaneZ : ℝ := roomDepth / 2.0 + 0.35

def corridorEndX : ℝ := buildingWidth / 2.0 - 0.45

def lobbySpotZ : ℝ := roomDepth / 2.0 + 0.55

def lobbySpotXs : List ℝ := [-1.2, -0.4, 0.4, 1.2]

structure RoomAnchors where
  center : Vec3
  idle : Vec3
  desk : Vec3
  door : Vec3

-- `Math.round` rounds a half up.
def clampRoomIndex : Number → Int
  | .finite roomIndex => min (max ⌊roomIndex + 0.5⌋ 1) roomsPerFloor
  | _ => 1

def roomCenterX (roomIndex : Int) : ℝ := -buildingWidth / 2.0 + roomWidth / 2.0 + (roomIndex - 1) * roomWidth

def floorY (floor : Int) : ℝ := (floor - 1) * floorHeight

def roomAnchors (floor roomIndex : Int) : RoomAnchors :=
  let x := roomCenterX roomIndex
  let y := floorY floor
  ⟨⟨x, y, 0⟩, ⟨x - 0.05, y, -0.45⟩, ⟨x + 0.5, y, 0.05⟩, ⟨x, y, roomDepth / 2.0 - 0.15⟩⟩

end

theorem number_same {a b : Number} (same : a.same b = true) : a = b := by
  cases a <;> cases b <;> simp_all [Number.same]

theorem clamp_room_index_bounds (roomIndex : Number) : 1 ≤ clampRoomIndex roomIndex ∧ clampRoomIndex roomIndex ≤ 4 := by
  cases roomIndex with
  | finite value =>
      simp only [clampRoomIndex, roomsPerFloor]
      omega
  | infinite negative => simp [clampRoomIndex]
  | nan => simp [clampRoomIndex]

theorem room_center_bounds {room : Int} (first : 1 ≤ room) (last : room ≤ 4) : -3.6 ≤ roomCenterX room ∧ roomCenterX room ≤ 3.6 := by
  have low : (1 : ℝ) ≤ room := by exact_mod_cast first
  have high : (room : ℝ) ≤ 4 := by exact_mod_cast last
  simp only [roomCenterX, buildingWidth, roomWidth, roomsPerFloor]
  norm_num
  constructor <;> linarith

end AiWorld.Indoors
