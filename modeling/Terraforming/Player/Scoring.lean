import Terraforming.Board.Basic
import Terraforming.Player.Basic

/-!
# Points of a player

The terraform rating, the formulas of the cards in play, and the tiles: a point for each greenery,
one for each greenery next to a city, and what capitals and commercial districts count.
-/

namespace Terraforming.Player

/-- How many whole times `per` goes into `n`. -/
def groups (n per : Int) : Except Fault Int :=
  if per = 0 then .error .zeroDivisor else .ok (Int.fdiv n per)

/-- The points of one card in play. -/
def cardPoints (p : Player) (b : Board) (c : PlayedCard) : Except Fault Int :=
  match c.card.points with
  | none => .ok 0
  | some v =>
    match v.type with
    | .immediate => .ok v.points
    | .perCity => .ok (v.points * b.cityCount false (some p.id))
    | .perNCities => groups b.cityCount v.per
    | .perTag => do
      let tags ← p.tagCount v.tag
      return v.points * (← groups tags v.per)
    | .perCardResource => do
      return v.points * (← groups (p.held c.instanceId v.cardResource) v.per)
    | .fixedIfAnyCardResource =>
      .ok (if 0 < p.held c.instanceId v.cardResource then v.points else 0)

/-- The points of one city. -/
def cityPoints (b : Board) (l : Location) (kind : Option CityKind) : Int :=
  (if kind = some .capital then b.adjacentOceans l else 0) + b.adjacentGreeneries l

/-- The points of one special tile. -/
def specialTilePoints (b : Board) (h : Hex) (tile : Option SpecialTile) : Int :=
  if tile = some .commercialDistrict then b.adjacentCities (.onMars h) else 0

def tilePoints (p : Player) (b : Board) : Int :=
  (b.greeneriesOf p.id).length +
    total ((b.citiesOf p.id).map fun c => cityPoints b c.1 c.2) +
    total ((b.specialTilesOf p.id).map fun t => specialTilePoints b t.1 t.2)

/-- The player's points, without milestones and awards. -/
def points (p : Player) (b : Board) : Except Fault Int := do
  let cards ← p.played.mapM (p.cardPoints b)
  return p.rating + total cards + p.tilePoints b

end Terraforming.Player
