import Terraforming.Random.Generator

/-!
# Shuffles

Whatever the generator draws, a shuffle only changes the order (`shuffle_perm`), and the order that
it makes does not depend on what is shuffled (`shuffle_map`).
-/

namespace Terraforming

namespace Generator

variable {α β : Type}

theorem swapIfInBounds_perm (xs : Array α) (i j : Nat) : (xs.swapIfInBounds i j).Perm xs := by
  unfold Array.swapIfInBounds
  split
  · split
    · exact Array.swap_perm _ _
    · exact .rfl
  · exact .rfl

theorem shuffleFrom_perm (i : Nat) (g : Generator) (xs : Array α) :
    (shuffleFrom i g xs).Perm xs := by
  induction i generalizing g xs with
  | zero => exact .rfl
  | succ i ih =>
    rw [shuffleFrom]
    exact (ih _ _).trans (swapIfInBounds_perm xs _ _)

/-- A shuffled list has the elements of the list. -/
theorem shuffle_perm (g : Generator) (xs : List α) : (g.shuffle xs).Perm xs :=
  (shuffleFrom_perm _ g xs.toArray).toList

theorem swapIfInBounds_map (f : α → β) (xs : Array α) (i j : Nat) :
    (xs.map f).swapIfInBounds i j = (xs.swapIfInBounds i j).map f := by
  unfold Array.swapIfInBounds
  simp only [Array.size_map]
  split
  · split
    · ext k hk hk'
      · simp
      · simp only [Array.getElem_swap, Array.getElem_map]
        split
        · rfl
        · split <;> rfl
    · rfl
  · rfl

theorem shuffleFrom_map (f : α → β) (i : Nat) (g : Generator) (xs : Array α) :
    shuffleFrom i g (xs.map f) = (shuffleFrom i g xs).map f := by
  induction i generalizing g xs with
  | zero => rfl
  | succ i ih =>
    simp only [shuffleFrom, swapIfInBounds_map, ih]

/-- What the elements are makes no difference to the order. -/
theorem shuffle_map (f : α → β) (g : Generator) (xs : List α) :
    g.shuffle (xs.map f) = (g.shuffle xs).map f := by
  have start : (xs.map f).toArray = xs.toArray.map f := (List.map_toArray).symm
  rw [shuffle, shuffle, List.length_map, start, shuffleFrom_map, Array.toList_map]

end Generator

end Terraforming
