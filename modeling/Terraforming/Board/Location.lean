import Terraforming.Board.Hex
import Terraforming.Data.Vocabulary

/-!
# Locations

A tile sits on a hex of Mars or at a named place off the planet.
-/

namespace Terraforming

/-- Named places that some tiles are tied to. -/
inductive Site where
  | noctisCity
  | phobosSpaceHaven
  | ganymedeColony
  | volcanicArea
deriving DecidableEq, Repr

namespace Site

def word : Site → String
  | noctisCity => "noctis_city"
  | phobosSpaceHaven => "phobos_space_haven"
  | ganymedeColony => "ganymede_colony"
  | volcanicArea => "volcanic_area"

def all : List Site := [noctisCity, phobosSpaceHaven, ganymedeColony, volcanicArea]

instance : Vocabulary Site := ⟨all, word⟩

/-- The place of a site in alphabetical order. -/
def rank : Site → Nat
  | ganymedeColony => 0
  | noctisCity => 1
  | phobosSpaceHaven => 2
  | volcanicArea => 3

theorem rank_inj {a b : Site} (h : a.rank = b.rank) : a = b := by
  cases a <;> cases b <;> first | rfl | simp [rank] at h

instance : Ord Site := ⟨compareOn rank⟩

instance : Std.TransOrd Site := inferInstanceAs (Std.TransCmp (compareOn rank))

instance : Std.LawfulEqOrd Site where
  eq_of_compare h := rank_inj (Std.LawfulEqOrd.eq_of_compare (α := Nat) h)

end Site

inductive Location where
  | onMars (hex : Hex)
  | offMars (site : Site)
deriving DecidableEq, Repr

namespace Location

def isOnMars : Location → Bool
  | onMars _ => true
  | offMars _ => false

def hex? : Location → Option Hex
  | onMars h => some h
  | offMars _ => none

/-- The adjacent locations on Mars; a place off the planet has none. -/
def neighbors : Location → List Hex
  | onMars h => h.neighbors
  | offMars _ => []

def text : Location → String
  | onMars h => h.text
  | offMars s => s.word

/-! ## Board order: the hexes by column and row, then the named places by name -/

def rank : Location → Nat
  | onMars _ => 0
  | offMars _ => 1

def column : Location → Int
  | onMars h => h.x
  | offMars _ => 0

def row : Location → Int
  | onMars h => h.y
  | offMars _ => 0

def siteRank : Location → Nat
  | onMars _ => 0
  | offMars s => s.rank

instance : Ord Location :=
  ⟨compareLex (compareOn rank) (compareLex (compareOn column)
    (compareLex (compareOn row) (compareOn siteRank)))⟩

instance : Std.TransOrd Location :=
  inferInstanceAs (Std.TransCmp (compareLex (compareOn rank) (compareLex (compareOn column)
    (compareLex (compareOn row) (compareOn siteRank)))))

instance : Std.LawfulEqOrd Location where
  eq_of_compare {a b} h := by
    have h : (compare a.rank b.rank).then ((compare a.column b.column).then
        ((compare a.row b.row).then (compare a.siteRank b.siteRank))) = .eq := h
    simp only [Ordering.then_eq_eq, Std.LawfulEqOrd.compare_eq_iff_eq] at h
    obtain ⟨hr, hx, hy, hs⟩ := h
    cases a with
    | onMars p =>
      cases b with
      | onMars q => cases p; cases q; simp_all [column, row]
      | offMars t => simp [rank] at hr
    | offMars s =>
      cases b with
      | onMars q => simp [rank] at hr
      | offMars t => exact congrArg offMars (Site.rank_inj hs)

end Location

end Terraforming
