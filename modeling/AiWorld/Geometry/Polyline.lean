import Mathlib.Analysis.Normed.Module.Basic
import Mathlib.Topology.LocallyFinite
import Mathlib.Topology.Algebra.Order.Floor

set_option autoImplicit false

namespace AiWorld.Polyline

-- A point with its distance along a line.
structure Knot (α : Type) where
  place : ℝ
  point : α

def Knot.map {α β : Type} (f : α → β) (knot : Knot α) : Knot β := ⟨knot.place, f knot.point⟩

noncomputable section

-- The first segment that ends at `s` or after it, or the last one.
def seek {α : Type} (s : ℝ) (a b : Knot α) : List (Knot α) → Knot α × Knot α
  | [] => (a, b)
  | next :: rest => if b.place < s then seek s b next rest else (a, b)

variable {α β : Type} {b : Knot α}

theorem seek_map (f : α → β) (s : ℝ) (a b : Knot α) (rest : List (Knot α)) :
    seek s (a.map f) (b.map f) (rest.map (Knot.map f)) = ((seek s a b rest).1.map f, (seek s a b rest).2.map f) := by
  induction rest generalizing a b with
  | nil => rfl
  | cons next rest ih =>
      by_cases beyond : b.place < s
      · have beyondToo : (b.map f).place < s := beyond
        rw [List.map_cons, seek, if_pos beyondToo, seek, if_pos beyond]
        exact ih b next
      · have beforeToo : ¬ (b.map f).place < s := beyond
        rw [List.map_cons, seek, if_neg beforeToo, seek, if_neg beyond]

-- Every segment has a length.
def Rising {α : Type} (a b : Knot α) : List (Knot α) → Prop
  | [] => a.place < b.place
  | next :: rest => a.place < b.place ∧ Rising b next rest

variable {rest : List (Knot α)}

theorem rising_first {a : Knot α} (rising : Rising a b rest) : a.place < b.place := by
  cases rest with
  | nil => exact rising
  | cons next rest => exact rising.1

theorem rising_map (f : α → β) (a b : Knot α) (rising : Rising a b rest) :
    Rising (a.map f) (b.map f) (rest.map (Knot.map f)) := by
  induction rest generalizing a b with
  | nil => exact rising
  | cons next rest ih => exact ⟨rising.1, ih b next rising.2⟩

theorem seek_rising (s : ℝ) (a b : Knot α) (rising : Rising a b rest) :
    (seek s a b rest).1.place < (seek s a b rest).2.place := by
  induction rest generalizing a b with
  | nil => exact rising
  | cons next rest ih =>
      rw [seek]
      split
      · exact ih b next rising.2
      · exact rising.1

theorem seek_first {s : ℝ} (a : Knot α) (rest : List (Knot α)) (early : s ≤ b.place) : seek s a b rest = (a, b) := by
  cases rest with
  | nil => rfl
  | cons next rest => rw [seek, if_neg (not_lt.mpr early)]

variable {E : Type} [NormedAddCommGroup E] [NormedSpace ℝ E]

def between (s : ℝ) (segment : Knot E × Knot E) : E :=
  segment.1.point + ((s - segment.1.place) / (segment.2.place - segment.1.place)) • (segment.2.point - segment.1.point)

def interpolate (a b : Knot E) (rest : List (Knot E)) (s : ℝ) : E := between s (seek s a b rest)

theorem between_start (a b : Knot E) : between a.place (a, b) = a.point := by simp [between]

variable {a : Knot E}

theorem between_end (b : Knot E) (rising : a.place < b.place) : between b.place (a, b) = b.point := by
  have span : b.place - a.place ≠ 0 := by
    have positive := sub_pos.mpr rising
    exact ne_of_gt positive
  simp [between, div_self span]

theorem continuous_between (a b : Knot E) : Continuous (fun s => between s (a, b)) := by
  unfold between
  fun_prop

theorem interpolate_start (b : Knot E) (rest : List (Knot E)) (rising : Rising a b rest) :
    interpolate a b rest a.place = a.point := by
  rw [interpolate, seek_first a rest (le_of_lt (rising_first rising)), between_start]

theorem interpolate_second {b : Knot E} {rest : List (Knot E)} (rising : Rising a b rest) :
    interpolate a b rest b.place = b.point := by
  rw [interpolate, seek_first a rest (le_refl _), between_end b (rising_first rising)]

-- Two neighbouring segments meet in their common point.
theorem continuous_interpolate (a b : Knot E) {rest : List (Knot E)} (rising : Rising a b rest) :
    Continuous (interpolate a b rest) := by
  induction rest generalizing a b with
  | nil => exact continuous_between a b
  | cons next rest ih =>
      have split : interpolate a b (next :: rest) = fun s => if s ≤ b.place then between s (a, b) else interpolate b next rest s := by
        funext s
        rw [interpolate, seek]
        by_cases early : s ≤ b.place
        · rw [if_neg (not_lt.mpr early), if_pos early]
        · rw [if_pos (not_le.mp early), if_neg early]
          rfl
      rw [split]
      apply Continuous.if_le (continuous_between a b) (ih b next rising.2) continuous_id continuous_const
      intro s here
      have same : s = b.place := here
      rw [same, between_end b rising.1, interpolate_start next rest rising.2]

end

section

variable {X : Type} [TopologicalSpace X]

theorem buckets_locally_finite {width : ℝ} (positive : 0 < width) :
    LocallyFinite (fun bucket : ℤ => Set.Icc (bucket * width) ((bucket + 1) * width)) := by
  intro t
  refine ⟨Set.Ioo (t - width) (t + width), Ioo_mem_nhds (by linarith) (by linarith), ?_⟩
  apply (Set.finite_Icc (⌊t / width⌋ - 2) (⌊t / width⌋ + 2)).subset
  rintro bucket ⟨time, ⟨low, high⟩, ⟨after, before⟩⟩
  have floorLow : (⌊t / width⌋ : ℝ) * width ≤ t := (le_div_iff₀ positive).mp (Int.floor_le _)
  have floorHigh : t < ((⌊t / width⌋ : ℝ) + 1) * width := (div_lt_iff₀ positive).mp (Int.lt_floor_add_one _)
  constructor
  · by_contra less
    have far : (bucket : ℝ) + 1 + 2 ≤ ⌊t / width⌋ := by exact_mod_cast (by omega : bucket + 1 + 2 ≤ ⌊t / width⌋)
    nlinarith
  · by_contra more
    have far : (⌊t / width⌋ : ℝ) + 1 + 2 ≤ bucket := by exact_mod_cast (by omega : ⌊t / width⌋ + 1 + 2 ≤ bucket)
    nlinarith

-- One motion for each bucket of time, each ending where the next one starts.
theorem continuous_buckets (width : ℝ) (positive : 0 < width) (motion : ℤ → ℝ → X) (continuous : ∀ bucket, Continuous (motion bucket))
    (meets : ∀ bucket : ℤ, motion bucket ((bucket + 1) * width) = motion (bucket + 1) ((bucket + 1) * width)) :
    Continuous (fun t => motion ⌊t / width⌋ t) := by
  refine (buckets_locally_finite positive).continuous ?_ (fun _ => isClosed_Icc) (fun bucket => ?_)
  · apply Set.eq_univ_of_forall
    intro t
    refine Set.mem_iUnion.mpr ⟨⌊t / width⌋, (le_div_iff₀ positive).mp (Int.floor_le _), ?_⟩
    exact le_of_lt ((div_lt_iff₀ positive).mp (Int.lt_floor_add_one _))
  · refine (continuous bucket).continuousOn.congr (fun t inside => ?_)
    rcases eq_or_lt_of_le inside.2 with last | early
    · have floor : ⌊t / width⌋ = bucket + 1 := by
        rw [last, mul_div_assoc, div_self (ne_of_gt positive), mul_one]
        exact_mod_cast Int.floor_intCast (bucket + 1)
      simp only [floor]
      rw [last]
      exact (meets bucket).symm
    · have floor : ⌊t / width⌋ = bucket := by
        rw [Int.floor_eq_iff]
        exact ⟨(le_div_iff₀ positive).mpr inside.1, (div_lt_iff₀ positive).mpr early⟩
      simp only [floor]

end

end AiWorld.Polyline
