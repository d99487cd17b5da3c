import Terraforming.Board.Basic

/-!
# The standard layout

Sixty-one hexes, row by row from the top, and two places off the planet.
-/

namespace Terraforming.Board.Layout

/-! ## Kinds of space -/

def land (x y : Int) (bonuses : List Impact := []) : Space :=
  { location := .onMars ⟨x, y⟩, designations := KeySet.ofList [.land], bonuses }

def oceanSpace (x y : Int) (bonuses : List Impact := []) : Space :=
  { location := .onMars ⟨x, y⟩, designations := KeySet.ofList [.reservedForOcean], bonuses }

def volcano (name : String) (x y : Int) (bonuses : List Impact) : Space :=
  { location := .onMars ⟨x, y⟩,
    designations := KeySet.ofList [.land, .volcanic],
    sites := KeySet.ofList [.volcanicArea],
    bonuses, name }

def offMars (name : String) (site : Site) : Space :=
  { location := .offMars site,
    designations := KeySet.ofList [.offMars],
    sites := KeySet.ofList [site],
    name }

def plants (n : Int) : Impact := .gainResource .plants n

def steel (n : Int) : Impact := .gainResource .steel n

def titanium (n : Int) : Impact := .gainResource .titanium n

def cards (n : Int) : Impact := .drawCard n

/-! ## The rows -/

def standardRows : List (List Space) :=
  [[volcano "Arsia Mons" 0 0 [plants 2],
    volcano "Pavonis Mons" 1 0 [plants 1, titanium 1],
    volcano "Ascraeus Mons" 2 0 [cards 1],
    land 3 0,
    land 4 0 [steel 2]],
   [land 0 (-1) [plants 1],
    land 1 (-1) [plants 2],
    land 2 (-1) [plants 1],
    land 3 (-1),
    volcano "Tharsis Tholus" 4 (-1) [steel 1],
    oceanSpace 5 (-1) [steel 2]],
   [land 0 (-2),
    land 1 (-2) [plants 2],
    { location := .onMars ⟨2, -2⟩,
      designations := KeySet.ofList [.land],
      sites := KeySet.ofList [.noctisCity],
      bonuses := [plants 2],
      name := "Noctis City" },
    land 3 (-2) [plants 1],
    land 4 (-2),
    land 5 (-2),
    land 6 (-2)],
   [land 0 (-3) [steel 2],
    land 1 (-3),
    land 2 (-3) [plants 1],
    oceanSpace 3 (-3) [plants 2],
    land 4 (-3) [plants 1],
    land 5 (-3),
    land 6 (-3),
    oceanSpace 7 (-3) [cards 1]],
   [land 0 (-4) [steel 1],
    land 1 (-4),
    land 2 (-4),
    land 3 (-4) [plants 1],
    oceanSpace 4 (-4) [plants 2],
    land 5 (-4) [plants 2],
    land 6 (-4),
    land 7 (-4),
    oceanSpace 8 (-4)],
   [land 1 (-5) [steel 2],
    land 2 (-5),
    land 3 (-5),
    land 4 (-5) [plants 1],
    oceanSpace 5 (-5) [plants 2],
    land 6 (-5) [plants 1],
    land 7 (-5),
    oceanSpace 8 (-5) [cards 2]],
   [land 2 (-6),
    land 3 (-6) [cards 1],
    land 4 (-6),
    oceanSpace 5 (-6) [plants 1],
    land 6 (-6) [plants 2],
    land 7 (-6) [plants 1],
    land 8 (-6) [steel 1]],
   [land 3 (-7),
    land 4 (-7),
    land 5 (-7) [plants 1],
    oceanSpace 6 (-7) [plants 1],
    land 7 (-7) [plants 2],
    oceanSpace 8 (-7) [plants 2]],
   [oceanSpace 4 (-8) [titanium 2],
    land 5 (-8) [titanium 1],
    land 6 (-8),
    oceanSpace 7 (-8) [plants 1],
    land 8 (-8) [plants 2]],
   [offMars "Phobos Space Haven" .phobosSpaceHaven,
    offMars "Ganymede Colony" .ganymedeColony]]

end Layout

/-- Every space of the standard layout. -/
def standardSpaces : List Space := Layout.standardRows.flatten

/-- The standard layout without tiles, at the parameters that a game starts with. -/
def standard : Board := ({ spaces := standardSpaces } : Contents).board

end Terraforming.Board
