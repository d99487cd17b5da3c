import Terraforming.Board.Space
import Terraforming.Data.Ledger
import Terraforming.Fault

/-!
# The board

The spaces of a layout, what occupies them, and two of the global parameters; the third, the
oceans, is read off the tiles.  Occupied locations are kept in four indexes, one for each kind of
tile.  A sound board (`Board.conflict? = none`) holds a location in one index at most, and
`Board.status` says what a location holds by asking the indexes in turn.
-/

namespace Terraforming

/-- The tiles, and the parameters that have markers of their own. -/
structure Board where
  spaces : Table Location Space
  cities : Table Location (Option CityKind × Option PlayerId)
  oceans : KeySet Hex
  greeneries : Table Hex (Option PlayerId)
  specialTiles : Table Hex (Option SpecialTile × Option PlayerId)
  oxygen : Int
  temperature : Int
deriving DecidableEq

namespace Board

def maxOxygen : Int := 14

def minTemperature : Int := -30

def maxTemperature : Int := 8

def temperatureStep : Int := 2

/-- Megacredits for each ocean next to a placed tile. -/
def oceanAdjacencyBonus : Nat := 2

/-! ## Soundness -/

/-- The locations that an index holds, index by index. -/
def occupied (b : Board) : List Location :=
  b.cities.keys ++ b.oceans.keys.map .onMars ++ b.greeneries.keys.map .onMars ++
    b.specialTiles.keys.map .onMars

/-- The first location of a list that the list has named before, or that is no space. -/
def misplaced? (spaces : Table Location Space) (seen : List Location) :
    List Location → Option Violation
  | [] => none
  | l :: ls =>
    if l ∈ seen then some (.occupiedTwice l)
    else if spaces.contains l then misplaced? spaces (l :: seen) ls
    else some (.offBoard l)

/-- The first global parameter that is out of its range. -/
def outOfRange? (b : Board) : Option Violation :=
  if maxOceans < b.oceans.size then some (.excessOceans b.oceans.size)
  else if ¬(0 ≤ b.oxygen ∧ b.oxygen ≤ maxOxygen) then some (.oxygenOutOfRange b.oxygen)
  else if ¬(minTemperature ≤ b.temperature ∧ b.temperature ≤ maxTemperature) then
    some (.temperatureOutOfRange b.temperature)
  else none

/-- What is wrong with the contents of the board, if anything is. -/
def conflict? (b : Board) : Option Violation :=
  misplaced? b.spaces [] b.occupied <|> b.outOfRange?

/-! ## Setting up -/

/-- The contents of a board as lists, in which a later entry replaces an earlier one at the same
place. -/
structure Contents where
  spaces : List Space
  cities : List (Location × (Option CityKind × Option PlayerId)) := []
  oceans : List Hex := []
  greeneries : List (Hex × Option PlayerId) := []
  specialTiles : List (Hex × (Option SpecialTile × Option PlayerId)) := []
  oxygen : Int := 0
  temperature : Int := minTemperature

namespace Contents

def board (c : Contents) : Board where
  spaces := Table.ofList (c.spaces.map fun s => (s.location, s))
  cities := Table.ofList c.cities
  oceans := KeySet.ofList c.oceans
  greeneries := Table.ofList c.greeneries
  specialTiles := Table.ofList c.specialTiles
  oxygen := c.oxygen
  temperature := c.temperature

/-- The locations that each list names, once each and in the order named. -/
def named (c : Contents) : List Location :=
  (Ledger.ofList c.cities).keys ++ (KeySet.ofList c.oceans).keys.map .onMars ++
    (Ledger.ofList c.greeneries).keys.map .onMars ++
    (Ledger.ofList c.specialTiles).keys.map .onMars

/-- The board with these contents, if it is sound. -/
def toBoard (c : Contents) : Except Violation Board :=
  match misplaced? c.board.spaces [] c.named <|> c.board.outOfRange? with
  | some v => .error v
  | none => .ok c.board

end Contents

/-! ## Reading -/

def oceanCount (b : Board) : Nat := b.oceans.size

def oceansMaxed (b : Board) : Bool := maxOceans ≤ b.oceanCount

def oxygenMaxed (b : Board) : Bool := maxOxygen ≤ b.oxygen

def temperatureMaxed (b : Board) : Bool := maxTemperature ≤ b.temperature

/-- Every location of the layout, in board order. -/
def locations (b : Board) : List Location := b.spaces.keys

/-- What a location holds.  A greenery without an owner does not show. -/
def status (b : Board) (l : Location) : Tile :=
  match b.cities.get? l with
  | some (kind, owner) => { kind := .city, owner, cityKind := kind }
  | none =>
    match l with
    | .offMars _ => .empty
    | .onMars h =>
      if b.oceans.contains h then .ocean
      else match b.greeneries.getD h none with
        | some owner => .greenery owner
        | none =>
          match b.specialTiles.get? h with
          | some (tile, owner) => { kind := .specialTile, owner, specialTile := tile }
          | none => .empty

/-- What the neighbours hold, clockwise. -/
def neighborStatus (b : Board) (l : Location) : List Tile :=
  l.neighbors.map fun h => b.status (.onMars h)

def adjacentOceans (b : Board) (l : Location) : Nat :=
  l.neighbors.countP fun h => b.oceans.contains h

def adjacentCities (b : Board) (l : Location) : Nat :=
  l.neighbors.countP fun h => b.cities.contains (.onMars h)

def adjacentGreeneries (b : Board) (l : Location) : Nat :=
  l.neighbors.countP fun h => b.greeneries.contains h

def adjacentTiles (b : Board) (l : Location) : Nat :=
  (b.neighborStatus l).countP fun t => !t.isEmpty

def nextToOwnTile (b : Board) (p : PlayerId) (l : Location) : Bool :=
  (b.neighborStatus l).any fun t => t.owner = some p

/-- The cities of a player, in board order. -/
def citiesOf (b : Board) (p : PlayerId) : List (Location × Option CityKind) :=
  (b.cities.entries.filter fun e => e.2.2 = some p).map fun e => (e.1, e.2.1)

/-- How many cities there are: all of them, or only those on Mars, or only those of one owner. -/
def cityCount (b : Board) (onMarsOnly : Bool := false) (owner : Option PlayerId := none) : Nat :=
  b.cities.entries.countP fun e =>
    (!onMarsOnly || e.1.isOnMars) && (owner.isNone || decide (e.2.2 = owner))

/-- The greeneries of a player, in board order. -/
def greeneriesOf (b : Board) (p : PlayerId) : List Hex :=
  (b.greeneries.entries.filter fun e => e.2 = some p).map (·.1)

/-- The special tiles of a player, in board order. -/
def specialTilesOf (b : Board) (p : PlayerId) : List (Hex × Option SpecialTile) :=
  (b.specialTiles.entries.filter fun e => e.2.2 = some p).map fun e => (e.1, e.2.1)

/-! ## Placement bonuses -/

/-- Whether an impact is a plain gain of megacredits. -/
def isMegacreditGain (i : Impact) : Bool :=
  i.type = .gainResource && i.resource = some .megacredits

/-- Add `extra` megacredits to the first megacredit gain of a list, or to its end. -/
def addMegacredits (extra : Int) : List Impact → List Impact
  | [] => [.gainResource .megacredits extra]
  | i :: is =>
    if isMegacreditGain i then .gainResource .megacredits (i.count + extra) :: is
    else i :: addMegacredits extra is

/-- What placing a tile brings: the printed bonus, and megacredits for the adjacent oceans. -/
def placementBonuses (b : Board) (l : Location) : List Impact :=
  let printed := ((b.spaces.get? l).map (·.bonuses)).getD []
  let extra := oceanAdjacencyBonus * b.adjacentOceans l
  if extra = 0 then printed else addMegacredits extra printed

end Board

end Terraforming
