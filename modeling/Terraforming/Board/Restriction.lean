import Terraforming.Board.Location
import Terraforming.Card.Terms

/-!
# Placement restrictions

Where a tile may go is a list of restrictions, all of which a location has to pass.  This file
names them and gives the list of each kind of tile; what a restriction asks of the board is
`Board.passes`.
-/

namespace Terraforming

inductive RestrictionType where
  | landTile
  | reservedForOcean
  /-- The printed bonus of the space is steel or titanium. -/
  | onMetalBonus
  | atSite
  | adjacentToOwnedTile
  /-- A preference only: every location passes. -/
  | adjacentToOwnedTileIfAble
  | notNextToAnyOtherTile
  | notNextToCity
  | nextToCity
  | nextToTwoCities
  | nextToGreenery
deriving DecidableEq, Repr

namespace RestrictionType

def word : RestrictionType → String
  | landTile => "land_tile"
  | reservedForOcean => "reserved_for_ocean"
  | onMetalBonus => "on_steel_or_titanium_placement_bonus"
  | atSite => "at_special_location"
  | adjacentToOwnedTile => "adjacent_to_owned_tile"
  | adjacentToOwnedTileIfAble => "adjacent_to_owned_tile_if_able"
  | notNextToAnyOtherTile => "not_next_to_any_other_tile"
  | notNextToCity => "not_next_to_a_city"
  | nextToCity => "next_to_a_city"
  | nextToTwoCities => "next_to_at_least_two_cities"
  | nextToGreenery => "next_to_a_greenery"

def all : List RestrictionType :=
  [landTile, reservedForOcean, onMetalBonus, atSite, adjacentToOwnedTile,
   adjacentToOwnedTileIfAble, notNextToAnyOtherTile, notNextToCity, nextToCity, nextToTwoCities,
   nextToGreenery]

instance : Vocabulary RestrictionType := ⟨all, word⟩

end RestrictionType

/-- One restriction; only `atSite` names a site. -/
structure Restriction where
  type : RestrictionType
  site : Option Site := none
deriving DecidableEq, Repr

namespace Restriction

def landTile : Restriction := { type := .landTile }

def reservedForOcean : Restriction := { type := .reservedForOcean }

def onMetalBonus : Restriction := { type := .onMetalBonus }

def atSite (site : Site) : Restriction := { type := .atSite, site }

def adjacentToOwnedTile : Restriction := { type := .adjacentToOwnedTile }

def adjacentToOwnedTileIfAble : Restriction := { type := .adjacentToOwnedTileIfAble }

def notNextToAnyOtherTile : Restriction := { type := .notNextToAnyOtherTile }

def notNextToCity : Restriction := { type := .notNextToCity }

def nextToCity : Restriction := { type := .nextToCity }

def nextToTwoCities : Restriction := { type := .nextToTwoCities }

def nextToGreenery : Restriction := { type := .nextToGreenery }

/-! ## The lists of the tiles -/

/-- Where a city may go. -/
def forCity : CityKind → List Restriction
  | .noctisCity => [atSite .noctisCity]
  | .phobosSpaceHaven => [atSite .phobosSpaceHaven]
  | .ganymedeColony => [atSite .ganymedeColony]
  | .lavaTubeSettlement => [atSite .volcanicArea, notNextToCity]
  | .urbanizedArea => [landTile, nextToTwoCities]
  | .researchOutpost => [landTile, notNextToAnyOtherTile]
  | .regular | .capital => [landTile, notNextToCity]

/-- Where a special tile may go. -/
def forSpecialTile : SpecialTile → List Restriction
  | .nuclearZone | .restrictedArea | .commercialDistrict => [landTile]
  | .lavaFlows => [atSite .volcanicArea]
  | .naturalPreserve => [landTile, notNextToAnyOtherTile]
  | .industrialCenter => [landTile, nextToCity]
  | .moholeArea => [reservedForOcean]
  | .miningRights => [landTile, onMetalBonus]
  | .miningArea => [landTile, onMetalBonus, adjacentToOwnedTile]
  | .ecologicalZone => [landTile, nextToGreenery]

/-- Where an ocean may go: its reserved spaces, unless regular land is asked for. -/
def forOcean : Option LocationKind → List Restriction
  | some .regularLand => [landTile]
  | _ => [reservedForOcean]

/-- Where a greenery may go: land, unless the spaces reserved for oceans are asked for. -/
def forGreenery : Option LocationKind → List Restriction
  | some .reservedForOcean => [reservedForOcean]
  | _ => [landTile, adjacentToOwnedTileIfAble]

end Restriction

end Terraforming
