/-!
# The hex grid

Cube coordinates with the third axis dropped: `x + y + z = 0` at every point, so `z` is derived.
The origin is the left-most hex of the top row, `x` grows toward the bottom right and `y` falls
downward; the middle row has `z = 0`.
-/

namespace Terraforming

/-- A point of the grid, on the board or off it. -/
structure Hex where
  x : Int
  y : Int
deriving DecidableEq, Repr

namespace Hex

def z (h : Hex) : Int := -(h.x + h.y)

/-- Whether the point lies within the hexagon of the board. -/
def inBounds (h : Hex) : Bool :=
  decide (0 ≤ h.x ∧ h.x ≤ 8 ∧ -8 ≤ h.y ∧ h.y ≤ 0 ∧ -4 ≤ h.z ∧ h.z ≤ 4)

/-- The six directions, clockwise. -/
def directions : List (Int × Int) := [(1, -1), (0, -1), (-1, 0), (-1, 1), (0, 1), (1, 0)]

/-- The neighbours within bounds, clockwise. -/
def neighbors (h : Hex) : List Hex :=
  (directions.map fun d => ⟨h.x + d.1, h.y + d.2⟩).filter inBounds

def text (h : Hex) : String := "(" ++ toString h.x ++ ", " ++ toString h.y ++ ")"

/-! ## Order: by column, then by row -/

instance : Ord Hex := ⟨compareLex (compareOn Hex.x) (compareOn Hex.y)⟩

instance : Std.TransOrd Hex :=
  inferInstanceAs (Std.TransCmp (compareLex (compareOn Hex.x) (compareOn Hex.y)))

instance : Std.LawfulEqOrd Hex where
  eq_of_compare {a b} h := by
    have h : (compare a.x b.x).then (compare a.y b.y) = .eq := h
    rw [Ordering.then_eq_eq] at h
    cases a; cases b
    simp_all

end Hex

end Terraforming
