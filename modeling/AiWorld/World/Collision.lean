import AiWorld.Geometry.Settling
import AiWorld.World.Footprints
import Mathlib.Analysis.Complex.Norm

set_option autoImplicit false

namespace AiWorld.World

variable {point : Vec2 ℝ} {first second : Footprint ℝ} {scale : ℝ}

noncomputable section

def operatorRadiusM : ℝ := 0.35

def clamp (value low high : ℝ) : ℝ := min (max value low) high

-- The center is inside the rectangle: step out through the closest wall.
def pushToNearestEdge (point : Vec2 ℝ) (radius : ℝ) (fp : Footprint ℝ) : Vec2 ℝ :=
  let distLeft := point.x - fp.minX
  let distRight := fp.maxX - point.x
  let distTop := point.z - fp.minZ
  let distBottom := fp.maxZ - point.z
  let least := min (min (min distLeft distRight) distTop) distBottom
  if least = distLeft then ⟨fp.minX - radius, point.z⟩
  else if least = distRight then ⟨fp.maxX + radius, point.z⟩
  else if least = distTop then ⟨point.x, fp.minZ - radius⟩
  else ⟨point.x, fp.maxZ + radius⟩

def closest (point : Vec2 ℝ) (fp : Footprint ℝ) : Vec2 ℝ := ⟨clamp point.x fp.minX fp.maxX, clamp point.z fp.minZ fp.maxZ⟩

def distSq (point : Vec2 ℝ) (fp : Footprint ℝ) : ℝ :=
  let dx := point.x - (closest point fp).x
  let dz := point.z - (closest point fp).z
  dx * dx + dz * dz

def pushOutOfRect (point : Vec2 ℝ) (radius : ℝ) (fp : Footprint ℝ) : Vec2 ℝ :=
  let near := closest point fp
  if radius * radius < distSq point fp then point
  else if 1e-9 < distSq point fp then
    let dist := Real.sqrt (distSq point fp)
    ⟨near.x + (point.x - near.x) / dist * radius, near.z + (point.z - near.z) / dist * radius⟩
  else pushToNearestEdge point radius fp

def pass (footprints : List (Footprint ℝ)) (radius : ℝ) (point : Vec2 ℝ) : Vec2 ℝ :=
  footprints.foldl (fun point fp => pushOutOfRect point radius fp) point

def resolvePosition (point : Vec2 ℝ) (footprints : List (Footprint ℝ)) (radius : ℝ) : Vec2 ℝ :=
  pass footprints radius (pass footprints radius point)

-- The plane's distance.
def separation (a b : Vec2 ℝ) : ℝ := ‖(⟨b.x - a.x, b.z - a.z⟩ : ℂ)‖

end

theorem separation_sq (a b : Vec2 ℝ) : separation a b ^ 2 = (b.x - a.x) ^ 2 + (b.z - a.z) ^ 2 := by
  rw [separation, Complex.sq_norm, Complex.normSq_mk]
  ring

theorem separation_comm (a b : Vec2 ℝ) : separation a b = separation b a := by
  have opposite : (⟨b.x - a.x, b.z - a.z⟩ : ℂ) = -⟨a.x - b.x, a.z - b.z⟩ := by
    apply Complex.ext <;> simp
  rw [separation, opposite, norm_neg, separation]

theorem separation_nonneg (a b : Vec2 ℝ) : 0 ≤ separation a b := norm_nonneg _

theorem across_le_separation (a b : Vec2 ℝ) : |b.x - a.x| ≤ separation a b :=
  Complex.abs_re_le_norm ⟨b.x - a.x, b.z - a.z⟩

theorem separation_triangle (a b c : Vec2 ℝ) : separation a c ≤ separation a b + separation b c := by
  have sum : (⟨c.x - a.x, c.z - a.z⟩ : ℂ) = ⟨b.x - a.x, b.z - a.z⟩ + ⟨c.x - b.x, c.z - b.z⟩ := by
    apply Complex.ext <;> simp
  rw [separation, sum]
  exact norm_add_le _ _

structure Holds (fp : Footprint ℝ) (point : Vec2 ℝ) : Prop where
  left : fp.minX ≤ point.x
  right : point.x ≤ fp.maxX
  top : fp.minZ ≤ point.z
  bottom : point.z ≤ fp.maxZ

structure Solid (fp : Footprint ℝ) : Prop where
  wide : fp.minX < fp.maxX
  deep : fp.minZ < fp.maxZ

-- Every point of one rectangle is more than `gap` away from every point of the other.
def FarApart (gap : ℝ) (first second : Footprint ℝ) : Prop := ∀ a b, Holds first a → Holds second b → gap < separation a b

theorem far_apart_symm {gap : ℝ} (apart : FarApart gap first second) : FarApart gap second first := by
  intro a b holdsA holdsB
  rw [separation_comm]
  exact apart b a holdsB holdsA

section Clamp

variable (value low high : ℝ) (order : low ≤ high)

include order

theorem clamp_low (below : value ≤ low) : clamp value low high = low := by
  rw [clamp, max_eq_right below, min_eq_left order]

omit order in
theorem clamp_mid (above : low ≤ value) (below : value ≤ high) : clamp value low high = value := by
  rw [clamp, max_eq_left above, min_eq_left below]

theorem clamp_high (above : high ≤ value) : clamp value low high = high := by
  rw [clamp, max_eq_left (order.trans above), min_eq_right above]

theorem low_le_clamp : low ≤ clamp value low high := le_min (le_max_right _ _) order

omit order in
theorem clamp_le_high : clamp value low high ≤ high := min_le_right _ _

-- Moving away from the nearest point keeps it the nearest.
theorem clamp_outward (positive : 0 ≤ scale) :
    clamp (clamp value low high + (value - clamp value low high) * scale) low high = clamp value low high := by
  rcases le_total value low with below | above
  · rw [clamp_low value low high order below]
    exact clamp_low _ low high order (by nlinarith)
  · rcases le_total value high with inside | beyond
    · rw [clamp_mid value low high above inside]
      simp [clamp_mid value low high above inside]
    · rw [clamp_high value low high order beyond]
      exact clamp_high _ low high order (by nlinarith)

theorem clamp_nearest {other : ℝ} (above : low ≤ other) (below : other ≤ high) :
    (value - clamp value low high) ^ 2 ≤ (value - other) ^ 2 := by
  rcases le_total value low with under | past
  · rw [clamp_low value low high order under]
    nlinarith
  · rcases le_total value high with inside | beyond
    · rw [clamp_mid value low high past inside]
      nlinarith [sq_nonneg (value - other)]
    · rw [clamp_high value low high order beyond]
      nlinarith

end Clamp

section Push

variable (point : Vec2 ℝ) (radius : ℝ) (fp : Footprint ℝ)

def Near : Prop := distSq point fp ≤ radius * radius

variable {point radius fp}

theorem push_far (far : ¬ Near point radius fp) : pushOutOfRect point radius fp = point := by
  simp [pushOutOfRect, not_le.mp far]

-- A point that keeps the distance stays where it is.
theorem push_stays (positive : 0 < radius) (large : 1e-9 < radius * radius) (away : radius * radius ≤ distSq point fp) :
    pushOutOfRect point radius fp = point := by
  rcases away.lt_or_eq with farther | exactly
  · exact push_far (not_le.mpr farther)
  · simp only [pushOutOfRect, ← exactly, lt_irrefl, if_false, large, if_true, Real.sqrt_mul_self positive.le,
      div_mul_cancel₀ _ positive.ne', add_sub_cancel]

theorem separation_closest (point : Vec2 ℝ) (fp : Footprint ℝ) : separation point (closest point fp) ^ 2 = distSq point fp := by
  rw [separation_sq, distSq]
  ring

variable (solid : Solid fp) (point)

include solid

theorem closest_holds : Holds fp (closest point fp) :=
  ⟨low_le_clamp _ _ _ solid.wide.le, clamp_le_high _ _ _, low_le_clamp _ _ _ solid.deep.le, clamp_le_high _ _ _⟩

theorem distSq_le (other : Vec2 ℝ) (holds : Holds fp other) : distSq point fp ≤ separation point other ^ 2 := by
  have across := clamp_nearest point.x fp.minX fp.maxX solid.wide.le holds.left holds.right
  have along := clamp_nearest point.z fp.minZ fp.maxZ solid.deep.le holds.top holds.bottom
  rw [separation_sq, distSq]
  simp only [closest]
  nlinarith

theorem distSq_outward (positive : 0 ≤ scale) :
    distSq ⟨(closest point fp).x + (point.x - (closest point fp).x) * scale,
      (closest point fp).z + (point.z - (closest point fp).z) * scale⟩ fp = distSq point fp * scale ^ 2 := by
  have across := clamp_outward point.x fp.minX fp.maxX solid.wide.le positive
  have along := clamp_outward point.z fp.minZ fp.maxZ solid.deep.le positive
  simp only [distSq, closest, across, along]
  ring

theorem distSq_left (z : ℝ) (positive : 0 ≤ radius) :
    distSq ⟨fp.minX - radius, z⟩ fp = radius * radius + (z - clamp z fp.minZ fp.maxZ) ^ 2 := by
  simp only [distSq, closest, clamp_low (fp.minX - radius) fp.minX fp.maxX solid.wide.le (by linarith)]
  ring

theorem distSq_right (z : ℝ) (positive : 0 ≤ radius) :
    distSq ⟨fp.maxX + radius, z⟩ fp = radius * radius + (z - clamp z fp.minZ fp.maxZ) ^ 2 := by
  simp only [distSq, closest, clamp_high (fp.maxX + radius) fp.minX fp.maxX solid.wide.le (by linarith)]
  ring

theorem distSq_top (x : ℝ) (positive : 0 ≤ radius) :
    distSq ⟨x, fp.minZ - radius⟩ fp = radius * radius + (x - clamp x fp.minX fp.maxX) ^ 2 := by
  simp only [distSq, closest, clamp_low (fp.minZ - radius) fp.minZ fp.maxZ solid.deep.le (by linarith)]
  ring

theorem distSq_bottom (x : ℝ) (positive : 0 ≤ radius) :
    distSq ⟨x, fp.maxZ + radius⟩ fp = radius * radius + (x - clamp x fp.minX fp.maxX) ^ 2 := by
  simp only [distSq, closest, clamp_high (fp.maxZ + radius) fp.minZ fp.maxZ solid.deep.le (by linarith)]
  ring

-- Whichever wall it leaves through, it ends up `radius` away from it and at most as far beside it as it was.
theorem edge_bounds (positive : 0 ≤ radius) :
    radius * radius ≤ distSq (pushToNearestEdge point radius fp) fp ∧
      distSq (pushToNearestEdge point radius fp) fp ≤ radius * radius + distSq point fp := by
  have across : (point.x - clamp point.x fp.minX fp.maxX) ^ 2 ≤ distSq point fp := by
    simp only [distSq, closest]
    nlinarith [sq_nonneg (point.z - clamp point.z fp.minZ fp.maxZ)]
  have along : (point.z - clamp point.z fp.minZ fp.maxZ) ^ 2 ≤ distSq point fp := by
    simp only [distSq, closest]
    nlinarith [sq_nonneg (point.x - clamp point.x fp.minX fp.maxX)]
  have acrossSq := sq_nonneg (point.x - clamp point.x fp.minX fp.maxX)
  have alongSq := sq_nonneg (point.z - clamp point.z fp.minZ fp.maxZ)
  simp only [pushToNearestEdge]
  split
  · rw [distSq_left solid point.z positive]
    constructor <;> linarith
  · split
    · rw [distSq_right solid point.z positive]
      constructor <;> linarith
    · split
      · rw [distSq_top solid point.x positive]
        constructor <;> linarith
      · rw [distSq_bottom solid point.x positive]
        constructor <;> linarith

theorem push_bounds (positive : 0 ≤ radius) (near : Near point radius fp) :
    radius * radius ≤ distSq (pushOutOfRect point radius fp) fp ∧
      distSq (pushOutOfRect point radius fp) fp ≤ radius * radius + 1e-9 := by
  simp only [pushOutOfRect, not_lt.mpr near, if_false]
  split
  · rename_i outside
    have present : 0 < distSq point fp := lt_trans (by norm_num) outside
    have root : 0 < Real.sqrt (distSq point fp) := Real.sqrt_pos.mpr present
    have exactly := distSq_outward point solid (div_nonneg positive root.le)
    have square : distSq point fp * (radius / Real.sqrt (distSq point fp)) ^ 2 = radius * radius := by
      rw [div_pow, Real.sq_sqrt present.le]
      field_simp
    simp only [div_mul_eq_mul_div, mul_div_assoc]
    rw [exactly, square]
    constructor <;> norm_num
  · rename_i inside
    obtain ⟨least, most⟩ := edge_bounds point solid positive
    exact ⟨least, by linarith [not_lt.mp inside]⟩

end Push

section Resolve

variable {radius : ℝ} (least : 1 / 1000 ≤ radius)

include least

theorem radius_sq : 1e-9 < radius * radius := by
  nlinarith

theorem push_again {fp : Footprint ℝ} (solid : Solid fp) (near : Near point radius fp) :
    pushOutOfRect (pushOutOfRect point radius fp) radius fp = pushOutOfRect point radius fp :=
  push_stays (by linarith) (radius_sq least) (push_bounds point solid (by linarith) near).1

-- Two rectangles within reach of one point are not far apart.
theorem not_near_both (solid : Solid first) (solidSecond : Solid second)
    (apart : FarApart (2 * radius + 1 / 10000) first second)
    (close : distSq point first ≤ radius * radius + 1e-9) : ¬ Near point radius second := by
  intro near
  have gap := apart _ _ (closest_holds point solid) (closest_holds point solidSecond)
  have triangle := separation_triangle (closest point first) point (closest point second)
  rw [separation_comm (closest point first) point] at triangle
  have nearFirst : separation point (closest point first) ≤ radius + 4 / 10 ^ 5 := by
    refine abs_le_of_sq_le_sq' ?_ (by linarith) |>.2
    rw [separation_closest]
    nlinarith
  have nearSecond : separation point (closest point second) ≤ radius := by
    refine abs_le_of_sq_le_sq' ?_ (by linarith) |>.2
    rw [separation_closest, sq]
    exact near
  linarith

noncomputable def pushes (radius : ℝ) (fp : Footprint ℝ) (point : Vec2 ℝ) : Vec2 ℝ := pushOutOfRect point radius fp

theorem settling_apart (solid : Solid first) (solidSecond : Solid second)
    (apart : FarApart (2 * radius + 1 / 10000) first second) :
    Settling.Apart (pushes radius) (fun point fp => Near point radius fp) first second := by
  have positive : 0 ≤ radius := by linarith
  have back := far_apart_symm apart
  refine ⟨?_, ?_, ?_⟩
  · intro point near
    exact not_near_both least solid solidSecond apart (near.trans (by norm_num))
  · intro point near
    exact not_near_both least solid solidSecond apart (push_bounds point solid positive near).2
  · intro point near
    exact not_near_both least solidSecond solid back (push_bounds point solidSecond positive near).2

variable (footprints : List (Footprint ℝ)) (solid : ∀ fp ∈ footprints, Solid fp)
  (apart : footprints.Pairwise (FarApart (2 * radius + 1 / 10000)))

include solid apart

theorem footprints_apart : footprints.Pairwise (Settling.Apart (pushes radius) (fun point fp => Near point radius fp)) := by
  refine apart.imp_of_mem ?_
  intro first second listed listedSecond far
  exact settling_apart least (solid first listed) (solid second listedSecond) far

theorem resolve_is_pass (point : Vec2 ℝ) : resolvePosition point footprints radius = pass footprints radius point :=
  Settling.settle_again (fun _ _ far => push_far far) (footprints_apart least footprints solid apart)
    (fun fp listed _ near => push_again least (solid fp listed) near) point

theorem pass_clear (point : Vec2 ℝ) (fp : Footprint ℝ) (listed : fp ∈ footprints) :
    radius * radius ≤ distSq (pass footprints radius point) fp := by
  have settled := footprints_apart least footprints solid apart
  by_cases close : ∃ other ∈ footprints, Near point radius other
  · obtain ⟨other, listedOther, near⟩ := close
    have pushed : pass footprints radius point = pushOutOfRect point radius other :=
      Settling.settle_near (fun _ _ far => push_far far) settled point listedOther near
    rw [pushed]
    by_cases same : fp = other
    · rw [same]
      exact (push_bounds point (solid other listedOther) (by linarith) near).1
    · have symmetric : Std.Symm (Settling.Apart (pushes radius) (fun point fp => Near point radius fp)) :=
        ⟨fun first second apart => Settling.apart_symm _ _ apart⟩
      have clear := (settled.forall listedOther listed (Ne.symm same)).clear point near
      exact (not_le.mp clear).le
  · have far : ∀ other ∈ footprints, ¬ Near point radius other := fun other listedOther near => close ⟨other, listedOther, near⟩
    have unmoved : pass footprints radius point = point := Settling.settle_far (fun _ _ far => push_far far) footprints point far
    rw [unmoved]
    exact (not_le.mp (far fp listed)).le

theorem resolve_settles (point : Vec2 ℝ) :
    (∀ fp ∈ footprints, ∀ other, Holds fp other → radius ≤ separation (resolvePosition point footprints radius) other) ∧
    (∀ shuffled, shuffled.Perm footprints →
      resolvePosition point shuffled radius = resolvePosition point footprints radius) ∧
    resolvePosition point footprints radius = pass footprints radius point ∧
    resolvePosition (resolvePosition point footprints radius) footprints radius = resolvePosition point footprints radius ∧
    ((∀ fp ∈ footprints, ∀ other, Holds fp other → radius < separation point other) →
      resolvePosition point footprints radius = point) := by
  have once := resolve_is_pass least footprints solid apart
  have settled := footprints_apart least footprints solid apart
  refine ⟨?_, ?_, once point, ?_, ?_⟩
  · intro fp listed other holds
    have clear := pass_clear least footprints solid apart point fp listed
    rw [once point]
    refine abs_le_of_sq_le_sq' ?_ (separation_nonneg _ _) |>.2
    rw [sq]
    exact clear.trans (distSq_le _ (solid fp listed) other holds)
  · intro shuffled same
    have order : ∀ point, pass shuffled radius point = pass footprints radius point :=
      Settling.settle_perm (fun _ _ far => push_far far) footprints shuffled settled same
    rw [resolvePosition, resolvePosition, order, order]
  · rw [once (resolvePosition point footprints radius), once point]
    exact once point
  · intro clear
    rw [once point]
    refine Settling.settle_far (fun _ _ far => push_far far) footprints point ?_
    intro fp listed near
    have away := clear fp listed (closest point fp) (closest_holds point (solid fp listed))
    have square := separation_closest point fp
    have reach : distSq point fp ≤ radius * radius := near
    nlinarith

end Resolve

namespace Sample

def shed : Footprint ℝ := ⟨"shed", 0, 2.0, 0, 2.0⟩

def barn : Footprint ℝ := ⟨"barn", 5.0, 9.0, 0, 2.0⟩

theorem shed_solid : Solid shed := ⟨by norm_num [shed], by norm_num [shed]⟩

theorem barn_solid : Solid barn := ⟨by norm_num [barn], by norm_num [barn]⟩

theorem shed_from_barn : FarApart (2 * (1 / 2) + 1 / 10000) shed barn := by
  intro a b holdsA holdsB
  have right := holdsA.right
  have left := holdsB.left
  simp only [shed, barn] at right left
  linarith [across_le_separation a b, le_abs_self (b.x - a.x)]

end Sample

theorem resolve_settles_between_sheds :
    resolvePosition ⟨3, 1⟩ [Sample.shed, Sample.barn] (1 / 2) = ⟨3, 1⟩ ∧
      (∀ fp ∈ [Sample.shed, Sample.barn], ∀ other, Holds fp other →
        1 / 2 ≤ separation (resolvePosition ⟨1, 1⟩ [Sample.shed, Sample.barn] (1 / 2)) other) ∧
      resolvePosition ⟨1, 1⟩ [Sample.barn, Sample.shed] (1 / 2) = resolvePosition ⟨1, 1⟩ [Sample.shed, Sample.barn] (1 / 2) := by
  have settles := resolve_settles (show (1 / 1000 : ℝ) ≤ 1 / 2 by norm_num) [Sample.shed, Sample.barn]
    (by simp [Sample.shed_solid, Sample.barn_solid]) (by simpa using Sample.shed_from_barn)
  refine ⟨?_, (settles ⟨1, 1⟩).1, (settles ⟨1, 1⟩).2.1 _ (List.Perm.swap _ _ _)⟩
  refine (settles ⟨3, 1⟩).2.2.2.2 ?_
  intro fp listed other holds
  have across := across_le_separation ⟨3, 1⟩ other
  rcases List.mem_pair.mp listed with rfl | rfl
  · have right : other.x ≤ 2.0 := holds.right
    linarith [neg_le_abs (other.x - 3)]
  · have left : 5.0 ≤ other.x := holds.left
    linarith [le_abs_self (other.x - 3)]

end AiWorld.World
