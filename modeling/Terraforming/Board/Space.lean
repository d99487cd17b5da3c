import Terraforming.Board.Location
import Terraforming.Card.Impact

/-!
# Board spaces

The printed side of the board: what a location is good for, which named places it belongs to, and
what placing a tile there brings.
-/

namespace Terraforming

inductive Designation where
  | land
  | reservedForOcean
  | volcanic
  | offMars
deriving DecidableEq, Repr

namespace Designation

def word : Designation → String
  | land => "land"
  | reservedForOcean => "reserved_for_ocean"
  | volcanic => "volcanic"
  | offMars => "off_mars"

def all : List Designation := [land, reservedForOcean, volcanic, offMars]

instance : Vocabulary Designation := ⟨all, word⟩

/-- The place of a designation in alphabetical order. -/
def rank : Designation → Nat
  | land => 0
  | offMars => 1
  | reservedForOcean => 2
  | volcanic => 3

theorem rank_inj {a b : Designation} (h : a.rank = b.rank) : a = b := by
  cases a <;> cases b <;> first | rfl | simp [rank] at h

instance : Ord Designation := ⟨compareOn rank⟩

instance : Std.TransOrd Designation := inferInstanceAs (Std.TransCmp (compareOn rank))

instance : Std.LawfulEqOrd Designation where
  eq_of_compare h := rank_inj (Std.LawfulEqOrd.eq_of_compare (α := Nat) h)

end Designation

/-- One location of a layout. -/
structure Space where
  location : Location
  designations : KeySet Designation
  /-- The named places that the location belongs to. -/
  sites : KeySet Site := ∅
  /-- What placing a tile here brings. -/
  bonuses : List Impact := []
  name : Option String := none
deriving DecidableEq

end Terraforming
