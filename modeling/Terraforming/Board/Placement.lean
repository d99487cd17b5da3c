import Terraforming.Board.Basic
import Terraforming.Board.Restriction

/-!
# Placing tiles

Whether a tile may go somewhere is one question (`Board.allows`, against a list of restrictions);
putting it there is another.  `Board.place` refuses only what would leave the board unsound: a
location that is not on the board or is taken, anything but a city off Mars, and a tenth ocean.
-/

namespace Terraforming.Board

/-! ## What is allowed -/

/-- Whether placing at `space` would pass one restriction. -/
def passes (b : Board) (p : PlayerId) (space : Space) (l : Location) (r : Restriction) : Bool :=
  match r.type with
  | .landTile => space.designations.contains .land
  | .reservedForOcean => space.designations.contains .reservedForOcean
  | .onMetalBonus => space.bonuses.any fun i =>
      i.type = .gainResource && (i.resource = some .steel || i.resource = some .titanium)
  | .atSite => r.site.any space.sites.contains
  | .adjacentToOwnedTile => b.nextToOwnTile p l
  | .adjacentToOwnedTileIfAble => true
  | .notNextToAnyOtherTile => b.adjacentTiles l = 0
  | .notNextToCity => b.adjacentCities l = 0
  | .nextToCity => 1 ≤ b.adjacentCities l
  | .nextToTwoCities => 2 ≤ b.adjacentCities l
  | .nextToGreenery => 1 ≤ b.adjacentGreeneries l

/-- Whether a location is on the board, is empty and passes every restriction. -/
def allows (b : Board) (p : PlayerId) (l : Location) (rs : List Restriction) : Bool :=
  match b.spaces.get? l with
  | none => false
  | some space => (b.status l).isEmpty && rs.all (b.passes p space l)

/-- Every location that is allowed, in board order. -/
def legalLocations (b : Board) (p : PlayerId) (rs : List Restriction) : List Location :=
  b.locations.filter fun l => b.allows p l rs

/-! ## Putting a tile down -/

/-- The board with a tile at an empty hex. -/
def cover (b : Board) (h : Hex) (t : Tile) : Except Fault Board :=
  match t.kind with
  | .ocean =>
    if b.oceansMaxed then .error (.violation .oceansExhausted)
    else .ok { b with oceans := b.oceans.add h }
  | .greenery => .ok { b with greeneries := b.greeneries.insert h t.owner }
  | .specialTile =>
    .ok { b with specialTiles := b.specialTiles.insert h (t.specialTile, t.owner) }
  | .city | .empty => .error (.violation .emptyTile)

/-- The board with a tile put down, or why it cannot be. -/
def place (b : Board) (l : Location) (t : Tile) : Except Fault Board :=
  let current := b.status l
  if !b.spaces.contains l then .error (.violation (.offBoard l))
  else if !current.isEmpty then
    .error (if current.text?.isSome then .violation (.alreadyOccupied l current) else .unset)
  else if t.isCity then .ok { b with cities := b.cities.insert l (t.cityKind, t.owner) }
  else match l with
    | .offMars _ => .error (.violation (.onlyCitiesOffMars t.kind))
    | .onMars h => b.cover h t

/-- Put a tile down if that is allowed; oceans also need one to be left.  The flag says whether
the tile was put down. -/
def placeIfAllowed (b : Board) (p : PlayerId) (l : Location) (t : Tile) (rs : List Restriction) :
    Except Fault (Bool × Board) :=
  if (t.kind = .ocean && b.oceansMaxed) || !b.allows p l rs then .ok (false, b)
  else (b.place l t).map fun b' => (true, b')

/-- Put a city of `p` down if that is allowed. -/
def placeCityIfAllowed (b : Board) (p : PlayerId) (l : Location) (kind : CityKind)
    (rs : List Restriction) : Except Fault (Bool × Board) :=
  b.placeIfAllowed p l (.city kind p) rs

/-! ## Global parameters -/

def raiseTemperature (b : Board) : Except Fault Board :=
  if b.temperatureMaxed then .error (.violation .temperatureAtMaximum)
  else .ok { b with temperature := b.temperature + temperatureStep }

def raiseOxygen (b : Board) : Except Fault Board :=
  if b.oxygenMaxed then .error (.violation .oxygenAtMaximum)
  else .ok { b with oxygen := b.oxygen + 1 }

/-! ## Showing the board -/

/-- The line of an occupied location. -/
def line (b : Board) (l : Location) : Option String :=
  let status := b.status l
  if status.isEmpty then none
  else
    let label := match (b.spaces.get? l).bind (·.name) with
      | some name => if name.isEmpty then "" else " " ++ name
      | none => ""
    some (l.text ++ label ++ ": " ++ status.text?.getD "")

/-- The global parameters, and a line for each occupied location.  A tile that has no text is a
fault. -/
def render (b : Board) : Except Fault String :=
  if b.locations.any fun l => (b.status l).text?.isNone then .error .unset
  else
    let head := "oxygen=" ++ toString b.oxygen ++ " temperature=" ++ toString b.temperature ++
      " oceans=" ++ toString b.oceanCount
    .ok ("\n".intercalate (head :: b.locations.filterMap b.line))

end Terraforming.Board
