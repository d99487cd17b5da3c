import Terraforming.Data.Vocabulary

/-!
# The terms of cards

The closed lists that card texts draw on: tags, colours, and the kinds of city and special tile.
-/

namespace Terraforming

inductive CardTag where
  | building
  | space
  | power
  | science
  | jovian
  | earth
  | plant
  | microbe
  | animal
  | city
  | wild
  | event
deriving DecidableEq, Repr

namespace CardTag

def word : CardTag → String
  | building => "building"
  | space => "space"
  | power => "power"
  | science => "science"
  | jovian => "jovian"
  | earth => "earth"
  | plant => "plant"
  | microbe => "microbe"
  | animal => "animal"
  | city => "city"
  | wild => "wild"
  | event => "event"

def all : List CardTag :=
  [building, space, power, science, jovian, earth, plant, microbe, animal, city, wild, event]

instance : Vocabulary CardTag := ⟨all, word⟩

end CardTag

/-- The colour of a card: blue (active), green (automatic) or red (event). -/
inductive CardKind where
  | active
  | automatic
  | event
deriving DecidableEq, Repr

namespace CardKind

def word : CardKind → String
  | active => "active"
  | automatic => "automatic"
  | event => "event"

def all : List CardKind :=
  [active, automatic, event]

instance : Vocabulary CardKind := ⟨all, word⟩

end CardKind

/-- Where an ocean or a greenery may go when it is not the usual ground. -/
inductive LocationKind where
  | regularLand
  | reservedForOcean
deriving DecidableEq, Repr

namespace LocationKind

def word : LocationKind → String
  | regularLand => "regular_land"
  | reservedForOcean => "reserved_for_ocean"

def all : List LocationKind :=
  [regularLand, reservedForOcean]

instance : Vocabulary LocationKind := ⟨all, word⟩

end LocationKind

/-- How a city is sited and scored. -/
inductive CityKind where
  | regular
  /-- Scores a point for each adjacent ocean. -/
  | capital
  | noctisCity
  | phobosSpaceHaven
  | ganymedeColony
  | lavaTubeSettlement
  /-- Goes between two cities. -/
  | urbanizedArea
  /-- Goes next to no other tile. -/
  | researchOutpost
deriving DecidableEq, Repr

namespace CityKind

def word : CityKind → String
  | regular => "regular"
  | capital => "capital"
  | noctisCity => "noctis_city"
  | phobosSpaceHaven => "phobos_space_haven"
  | ganymedeColony => "ganymede_colony"
  | lavaTubeSettlement => "lava_tube_settlement"
  | urbanizedArea => "urbanized_area"
  | researchOutpost => "research_outpost"

def all : List CityKind :=
  [regular, capital, noctisCity, phobosSpaceHaven, ganymedeColony, lavaTubeSettlement,
   urbanizedArea, researchOutpost]

instance : Vocabulary CityKind := ⟨all, word⟩

end CityKind

inductive SpecialTile where
  | nuclearZone
  | restrictedArea
  | lavaFlows
  /-- Scores a point for each adjacent city. -/
  | commercialDistrict
  | naturalPreserve
  | industrialCenter
  | moholeArea
  | miningArea
  | miningRights
  | ecologicalZone
deriving DecidableEq, Repr

namespace SpecialTile

def word : SpecialTile → String
  | nuclearZone => "nuclear_zone"
  | restrictedArea => "restricted_area"
  | lavaFlows => "lava_flows"
  | commercialDistrict => "commercial_district"
  | naturalPreserve => "natural_preserve"
  | industrialCenter => "industrial_center"
  | moholeArea => "mohole_area"
  | miningArea => "mining_area"
  | miningRights => "mining_rights"
  | ecologicalZone => "ecological_zone"

def all : List SpecialTile :=
  [nuclearZone, restrictedArea, lavaFlows, commercialDistrict, naturalPreserve, industrialCenter,
   moholeArea, miningArea, miningRights, ecologicalZone]

instance : Vocabulary SpecialTile := ⟨all, word⟩

end SpecialTile

end Terraforming
