import Mathlib.Data.List.Pairwise
import Mathlib.Data.List.Perm.Basic

set_option autoImplicit false

namespace AiWorld.Settling

variable {ι α : Type} (push : ι → α → α) (near : α → ι → Prop)

-- Pushing a point out of one obstacle after the other.
def settle (obstacles : List ι) (point : α) : α := obstacles.foldl (fun point obstacle => push obstacle point) point

-- No point is near both obstacles, and a push out of one does not reach the other.
structure Apart (first second : ι) : Prop where
  single : ∀ point, near point first → ¬ near point second
  clear : ∀ point, near point first → ¬ near (push first point) second
  clearBack : ∀ point, near point second → ¬ near (push second point) first

theorem apart_symm {first second : ι} (apart : Apart push near first second) : Apart push near second first :=
  ⟨fun point nearSecond nearFirst => apart.single point nearFirst nearSecond, apart.clearBack, apart.clear⟩

variable {push near} (idle : ∀ obstacle point, ¬ near point obstacle → push obstacle point = point)

include idle

theorem settle_far (obstacles : List ι) (point : α) (far : ∀ obstacle ∈ obstacles, ¬ near point obstacle) :
    settle push obstacles point = point := by
  induction obstacles with
  | nil => rfl
  | cons obstacle obstacles ih =>
      rw [settle, List.foldl_cons, idle obstacle point (far obstacle (by simp))]
      exact ih (fun other listed => far other (by simp [listed]))

variable {obstacles : List ι}

theorem settle_near (apart : obstacles.Pairwise (Apart push near)) (point : α) {obstacle : ι} (listed : obstacle ∈ obstacles)
    (close : near point obstacle) : settle push obstacles point = push obstacle point := by
  induction obstacles with
  | nil => cases listed
  | cons first obstacles ih =>
      obtain ⟨others, rest⟩ := List.pairwise_cons.mp apart
      rw [settle, List.foldl_cons]
      rcases List.mem_cons.mp listed with rfl | later
      · refine settle_far idle obstacles (push obstacle point) ?_
        intro other listedOther
        exact (others other listedOther).clear point close
      · have away : ¬ near point first := fun nearFirst => (others obstacle later).single point nearFirst close
        rw [idle first point away]
        exact ih rest later

theorem settle_perm (obstacles others : List ι) (apart : obstacles.Pairwise (Apart push near)) (same : others.Perm obstacles)
    (point : α) : settle push others point = settle push obstacles point := by
  have apartOthers : others.Pairwise (Apart push near) :=
    (same.pairwise_iff (fun apart => apart_symm push near apart)).mpr apart
  by_cases close : ∃ obstacle ∈ obstacles, near point obstacle
  · obtain ⟨obstacle, listed, nearObstacle⟩ := close
    rw [settle_near idle apart point listed nearObstacle,
      settle_near idle apartOthers point (same.mem_iff.mpr listed) nearObstacle]
  · have far : ∀ obstacle ∈ obstacles, ¬ near point obstacle := fun obstacle listed nearObstacle =>
      close ⟨obstacle, listed, nearObstacle⟩
    rw [settle_far idle obstacles point far,
      settle_far idle others point (fun obstacle listed => far obstacle (same.mem_iff.mp listed))]

theorem settle_again (apart : obstacles.Pairwise (Apart push near))
    (again : ∀ obstacle ∈ obstacles, ∀ point, near point obstacle → push obstacle (push obstacle point) = push obstacle point)
    (point : α) : settle push obstacles (settle push obstacles point) = settle push obstacles point := by
  by_cases close : ∃ obstacle ∈ obstacles, near point obstacle
  · obtain ⟨obstacle, listed, nearObstacle⟩ := close
    rw [settle_near idle apart point listed nearObstacle]
    by_cases still : ∃ other ∈ obstacles, near (push obstacle point) other
    · -- only the obstacle it was pushed out of can still be near
      obtain ⟨other, listedOther, nearOther⟩ := still
      rw [settle_near idle apart _ listedOther nearOther]
      by_cases same : other = obstacle
      · rw [same]
        exact again obstacle listed point nearObstacle
      · have symmetric : Std.Symm (Apart push near) := ⟨fun first second apart => apart_symm push near apart⟩
        have separate := apart.forall listed listedOther (Ne.symm same)
        exact absurd nearOther (separate.clear point nearObstacle)
    · exact settle_far idle obstacles _ (fun other listedOther nearOther => still ⟨other, listedOther, nearOther⟩)
  · rw [settle_far idle obstacles point (fun obstacle listed nearObstacle => close ⟨obstacle, listed, nearObstacle⟩)]
    exact settle_far idle obstacles point (fun obstacle listed nearObstacle => close ⟨obstacle, listed, nearObstacle⟩)

end AiWorld.Settling
