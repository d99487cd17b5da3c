import Terraforming.Catalog.Basic
import Terraforming.Catalog.Design

/-!
# The base deck

A selection of the base game.
-/

namespace Terraforming.BaseDeck

open Design (card)

def jovianAndSpace : List Card := [
  card .automatic "Ganymede Colony" [.jovian, .space, .city] 20 {
    points := Points.perTag 1 1 .jovian
    impacts := [.placeCity (some .ganymedeColony)] },
  card .active "Water Import From Europa" [.jovian, .space] 25 {
    points := Points.perTag 1 1 .jovian
    actions := [.spendResource (.space 12) [.placeOcean]] },
  card .automatic "Methane From Titan" [.jovian, .space] 28 {
    requirements := [.minOxygen 2]
    points := Points.immediate 2
    production := [(.heat, 2), (.plants, 2)] },
  card .automatic "Io Mining Industries" [.jovian, .space] 41 {
    points := Points.perTag 1 1 .jovian
    production := [(.titanium, 2), (.megacredits, 2)] },
  card .automatic "Terraforming Ganymede" [.jovian, .space] 33 {
    points := Points.immediate 2
    impacts := [.gainTerraformRatingPerOwnTag 1 .jovian] },
  card .automatic "Asteroid Mining" [.jovian, .space] 30 {
    points := Points.immediate 2
    production := [(.titanium, 2)] },
  card .automatic "Asteroid Mining Consortium" [.jovian] 13 {
    requirements := [.minProduction .titanium 1]
    points := Points.immediate 1
    production := [(.titanium, 1)]
    anyProduction := [(.titanium, -1)] },
  card .automatic "Vesta Shipyard" [.jovian, .space] 15 {
    points := Points.immediate 1
    production := [(.titanium, 1)] },
  card .automatic "Beam From A Thorium Asteroid" [.jovian, .space, .power] 32 {
    requirements := [.minTags .jovian 1]
    points := Points.immediate 1
    production := [(.heat, 3), (.energy, 3)] },
  card .automatic "Colonizer Training Camp" [.jovian, .building] 8 {
    requirements := [.maxOxygen 5]
    points := Points.immediate 2 },
  card .automatic "Immigration Shuttles" [.earth, .space] 31 {
    points := Points.perNCities 3
    production := [(.megacredits, 5)] },
  card .automatic "Phobos Space Haven" [.space, .city] 25 {
    points := Points.immediate 3
    production := [(.titanium, 1)]
    impacts := [.placeCity (some .phobosSpaceHaven)] },
  card .active "Space Elevator" [.space, .building] 27 {
    points := Points.immediate 2
    production := [(.titanium, 1)]
    actions := [.spendResource (.of .steel 1) [.gainResource .megacredits 5]] },
  card .automatic "Space Station" [.space] 10 {
    points := Points.immediate 1
    effects := [.cardDiscountForTag .space 2] },
  card .active "Security Fleet" [.space] 12 {
    points := Points.perCardResource 1 1 .fighter
    actions := [.spendResource (.of .titanium 1) [.addResourceToSameCard .fighter]] },
  card .automatic "Lagrange Observatory" [.science, .space] 9 {
    points := Points.immediate 1
    impacts := [.drawCard 1] },
  card .automatic "Soletta" [.space] 35 { production := [(.heat, 7)] }]

def events : List Card := [
  card .event "Asteroid" [.space] 14 {
    impacts := [.raiseTemperature, .gainResource .titanium 2, .destroyAnyPlants 3] },
  card .event "Comet" [.space] 21 {
    impacts := [.raiseTemperature, .placeOcean, .destroyAnyPlants 3] },
  card .event "Big Asteroid" [.space] 27 {
    impacts := [
      .raiseTemperature, .raiseTemperature, .gainResource .titanium 4, .destroyAnyPlants 4] },
  card .event "Deimos Down" [.space] 31 {
    impacts := [
      .raiseTemperature, .raiseTemperature, .raiseTemperature, .gainResource .steel 4,
      .destroyAnyPlants 8] },
  card .event "Giant Ice Asteroid" [.space] 36 {
    impacts := [
      .raiseTemperature, .raiseTemperature, .placeOcean, .placeOcean, .destroyAnyPlants 6] },
  card .event "Towing A Comet" [.space] 23 {
    impacts := [.gainResource .plants 2, .placeOcean, .raiseOxygen] },
  card .event "Imported Hydrogen" [.earth, .space] 16 {
    impacts := [
      .oneOf [.gainResource .plants 3, .addResourceToAnotherCard .microbe 3,
        .addResourceToAnotherCard .animal 2],
      .placeOcean] },
  card .event "Nitrogen-Rich Asteroid" [.space] 31 {
    impacts := [.raiseTerraformRating 2, .raiseTemperature, .gainProduction .plants 1] },
  card .event "Release Of Inert Gases" [] 14 { impacts := [.raiseTerraformRating 2] },
  card .event "Interstellar Colony Ship" [.earth, .space] 24 {
    requirements := [.minTags .science 5]
    points := Points.immediate 4 },
  card .event "Lava Flows" [] 18 {
    impacts := [.placeSpecialTile .lavaFlows, .raiseTemperature, .raiseTemperature] },
  card .automatic "Lake Marineris" [] 18 {
    requirements := [.minTemperature 0]
    points := Points.immediate 2
    impacts := [.placeOcean, .placeOcean] },
  card .event "Ice Cap Melting" [] 5 {
    requirements := [.minTemperature 2]
    impacts := [.placeOcean] },
  card .event "Permafrost Extraction" [] 8 {
    requirements := [.minTemperature (-8)]
    impacts := [.placeOcean] },
  card .event "Virus" [.microbe] 1 {
    impacts := [.oneOf [.removeResourceFromAnyCard .animal 2, .destroyAnyPlants 5]] },
  card .event "Bribed Committee" [.earth] 7 {
    points := Points.immediate (-2)
    impacts := [.raiseTerraformRating 2] }]

def cities : List Card := [
  card .automatic "Capital" [.city, .building] 26 {
    requirements := [.minOceans 4]
    production := [(.energy, -2), (.megacredits, 5)]
    impacts := [.placeCity (some .capital)] },
  card .automatic "Domed Crater" [.city, .building] 24 {
    requirements := [.maxOxygen 7]
    points := Points.immediate 1
    production := [(.energy, -1), (.megacredits, 3)]
    impacts := [.placeCity, .gainResource .plants 3] },
  card .automatic "Noctis City" [.city, .building] 18 {
    production := [(.energy, -1), (.megacredits, 3)]
    impacts := [.placeCity (some .noctisCity)] },
  card .automatic "Cupola City" [.city, .building] 16 {
    requirements := [.maxOxygen 9]
    production := [(.energy, -1), (.megacredits, 3)]
    impacts := [.placeCity] },
  card .automatic "Underground City" [.city, .building] 18 {
    production := [(.energy, -2), (.steel, 2)]
    impacts := [.placeCity] },
  card .automatic "Urbanized Area" [.city, .building] 10 {
    production := [(.energy, -1), (.megacredits, 2)]
    impacts := [.placeCity (some .urbanizedArea)] },
  card .automatic "Lava Tube Settlement" [.city, .building] 15 {
    production := [(.energy, -1), (.megacredits, 2)]
    impacts := [.placeCity (some .lavaTubeSettlement)] },
  card .automatic "Research Outpost" [.science, .city, .building] 18 {
    effects := [.anyCardDiscount 1]
    impacts := [.placeCity (some .researchOutpost)] },
  card .automatic "Immigrant City" [.city, .building] 13 {
    production := [(.energy, -1), (.megacredits, -2)]
    impacts := [.placeCity]
    effects := [.onImpact .gainProductionForAnyImpact 1 [.placeCity none] (some .megacredits)] },
  card .automatic "Rover Construction" [.building] 8 {
    points := Points.immediate 1
    effects := [.onImpact .gainResourceForAnyImpact 2 [.placeCity none] (some .megacredits)] },
  card .automatic "Zeppelins" [] 13 {
    requirements := [.minOxygen 5]
    points := Points.immediate 1
    impacts := [.gainProductionPerCity .megacredits 1 true] },
  card .automatic "Rad-Suits" [] 6 {
    requirements := [.minCities 2]
    points := Points.immediate 1
    production := [(.megacredits, 1)] }]

def specialTiles : List Card := [
  card .automatic "Natural Preserve" [.science, .building] 9 {
    requirements := [.maxOxygen 4]
    points := Points.immediate 1
    production := [(.megacredits, 1)]
    impacts := [.placeSpecialTile .naturalPreserve] },
  card .automatic "Nuclear Zone" [.earth] 10 {
    points := Points.immediate (-2)
    impacts := [.placeSpecialTile .nuclearZone, .raiseTemperature, .raiseTemperature] },
  card .automatic "Mohole Area" [.building] 20 {
    production := [(.heat, 4)]
    impacts := [.placeSpecialTile .moholeArea] },
  card .active "Industrial Center" [.building] 4 {
    impacts := [.placeSpecialTile .industrialCenter]
    actions := [.spendResource (.megacredits 7) [.gainProduction .steel 1]] },
  card .automatic "Commercial District" [.building] 16 {
    production := [(.energy, -1), (.megacredits, 4)]
    impacts := [.placeSpecialTile .commercialDistrict] },
  card .automatic "Mining Rights" [.building] 9 { impacts := [.placeSpecialTile .miningRights] },
  card .automatic "Mining Area" [.building] 4 { impacts := [.placeSpecialTile .miningArea] },
  card .active "Restricted Area" [.science] 11 {
    impacts := [.placeSpecialTile .restrictedArea]
    actions := [.spendResource (.megacredits 2) [.drawCard 1]] },
  card .automatic "Ecological Zone" [.animal, .plant] 12 {
    requirements := [.minOwnedGreeneries 1]
    points := Points.perCardResource 1 2 .animal
    impacts := [.placeSpecialTile .ecologicalZone]
    effects := [.onImpact .gainCardResourceForOwnImpact 1 [.placeGreenery] none (some .animal)] }]

def plants : List Card := [
  card .automatic "Tundra Farming" [.plant] 16 {
    requirements := [.minTemperature (-6)]
    points := Points.immediate 2
    production := [(.plants, 1), (.megacredits, 2)]
    impacts := [.gainResource .plants 1] },
  card .automatic "Arctic Algae" [.plant] 12 {
    requirements := [.maxTemperature (-12)]
    impacts := [.gainResource .plants 1]
    effects := [.onImpact .gainResourceForAnyImpact 2 [.placeOcean] (some .plants)] },
  card .automatic "Eos Chasma National Park" [.plant, .building] 16 {
    requirements := [.minTemperature (-12)]
    points := Points.immediate 1
    production := [(.megacredits, 2)]
    impacts := [.addResourceToAnotherCard .animal, .gainResource .plants 3] },
  card .automatic "Mangrove" [.plant] 12 {
    requirements := [.minTemperature 4]
    points := Points.immediate 1
    impacts := [.placeGreenery (some .reservedForOcean)] },
  card .automatic "Trees" [.plant] 13 {
    requirements := [.minTemperature (-4)]
    points := Points.immediate 1
    production := [(.plants, 3)]
    impacts := [.gainResource .plants 1] },
  card .automatic "Heather" [.plant] 6 {
    requirements := [.minTemperature (-14)]
    points := Points.immediate 1
    production := [(.plants, 1)]
    impacts := [.gainResource .plants 1] },
  card .automatic "Grass" [.plant] 11 {
    requirements := [.minTemperature (-16)]
    production := [(.plants, 1)]
    impacts := [.gainResource .plants 3] },
  card .automatic "Bushes" [.plant] 10 {
    requirements := [.minTemperature (-10)]
    production := [(.plants, 2)]
    impacts := [.gainResource .plants 2] },
  card .automatic "Algae" [.plant] 10 {
    requirements := [.minOceans 5]
    production := [(.plants, 2)]
    impacts := [.gainResource .plants 1] },
  card .automatic "Adapted Lichen" [.plant] 9 { production := [(.plants, 1)] },
  card .automatic "Kelp Farming" [.plant] 17 {
    requirements := [.minOceans 6]
    points := Points.immediate 1
    production := [(.megacredits, 2), (.plants, 3)]
    impacts := [.gainResource .plants 2] },
  card .automatic "Moss" [.plant] 4 {
    requirements := [.minOceans 3]
    production := [(.plants, 1)]
    impacts := [.destroyOwnPlants 1] },
  card .automatic "Insects" [.microbe] 9 {
    requirements := [.minOxygen 6]
    impacts := [.gainProductionPerOwnTag .plant 1 .plants 1] },
  card .automatic "Cloud Seeding" [] 11 {
    requirements := [.minOceans 3]
    production := [(.megacredits, -1), (.plants, 2)]
    anyProduction := [(.heat, -1)] },
  card .automatic "Black Polar Dust" [] 15 {
    production := [(.megacredits, -2), (.heat, 3)]
    impacts := [.placeOcean] }]

def microbesAndAnimals : List Card := [
  card .active "Search For Life" [.science] 3 {
    requirements := [.maxOxygen 6]
    points := Points.fixedIfAnyCardResource 3 .science
    actions := [.revealCard (.megacredits 1) .microbe [.addResourceToSameCard .science]] },
  card .active "Regolith Eaters" [.science, .microbe] 13 {
    actions := [
      .free [.addResourceToSameCard .microbe], .spendCardResource .microbe 2 [.raiseOxygen]] },
  card .active "GHG Producing Bacteria" [.science, .microbe] 8 {
    requirements := [.minOxygen 4]
    actions := [
      .free [.addResourceToSameCard .microbe],
      .spendCardResource .microbe 2 [.raiseTemperature]] },
  card .active "Nitrite Reducing Bacteria" [.microbe] 11 {
    impacts := [.addResourceToSameCard .microbe 3]
    actions := [
      .free [.addResourceToSameCard .microbe],
      .spendCardResource .microbe 3 [.raiseTerraformRating]] },
  card .active "Ants" [.microbe] 9 {
    requirements := [.minOxygen 4]
    points := Points.perCardResource 1 2 .microbe
    actions := [.free [.removeResourceFromAnyCard .microbe, .addResourceToSameCard .microbe]] },
  card .active "Tardigrades" [.microbe] 4 {
    points := Points.perCardResource 1 4 .microbe
    actions := [.free [.addResourceToSameCard .microbe]] },
  card .active "Symbiotic Fungus" [.microbe] 4 {
    requirements := [.minTemperature (-14)]
    actions := [.free [.addResourceToAnotherCard .microbe]] },
  card .active "Extreme-Cold Fungus" [.microbe] 13 {
    requirements := [.maxTemperature (-10)]
    actions := [.free [.oneOf [.gainResource .plants 1, .addResourceToAnotherCard .microbe 2]]] },
  card .automatic "Archaebacteria" [.microbe] 6 {
    requirements := [.maxTemperature (-18)]
    production := [(.plants, 1)] },
  card .active "Predators" [.animal] 14 {
    requirements := [.minOxygen 11]
    points := Points.perCardResource 1 1 .animal
    actions := [.free [.removeResourceFromAnyCard .animal, .addResourceToSameCard .animal]] },
  card .active "Fish" [.animal] 9 {
    requirements := [.minTemperature 2]
    points := Points.perCardResource 1 1 .animal
    anyProduction := [(.plants, -1)]
    actions := [.free [.addResourceToSameCard .animal]] },
  card .active "Small Animals" [.animal] 6 {
    requirements := [.minOxygen 6]
    points := Points.perCardResource 1 2 .animal
    anyProduction := [(.plants, -1)]
    actions := [.free [.addResourceToSameCard .animal]] },
  card .active "Birds" [.animal] 10 {
    requirements := [.minOxygen 13]
    points := Points.perCardResource 1 1 .animal
    anyProduction := [(.plants, -2)]
    actions := [.free [.addResourceToSameCard .animal]] },
  card .active "Livestock" [.animal] 13 {
    requirements := [.minOxygen 9]
    points := Points.perCardResource 1 1 .animal
    production := [(.plants, -1), (.megacredits, 2)]
    actions := [.free [.addResourceToSameCard .animal]] },
  card .automatic "Pets" [.earth, .animal] 10 {
    points := Points.perCardResource 1 2 .animal
    impacts := [.addResourceToSameCard .animal]
    effects := [
      .onImpact .gainCardResourceForAnyImpact 1 [.placeCity none] none (some .animal),
      .cannotRemoveThisCardResource .animal] },
  card .automatic "Protected Habitats" [] 5 {
    effects := [.cannotRemoveAnyCardResources [.plant, .animal, .microbe]] }]

def powerAndIndustry : List Card := [
  card .automatic "Deep Well Heating" [.power, .building] 13 {
    production := [(.energy, 1)]
    impacts := [.raiseTemperature] },
  card .automatic "Nuclear Power" [.power, .building] 10 {
    production := [(.megacredits, -2), (.energy, 3)] },
  card .automatic "Geothermal Power" [.power, .building] 11 { production := [(.energy, 2)] },
  card .automatic "Power Plant" [.power, .building] 4 { production := [(.energy, 1)] },
  card .automatic "Solar Power" [.power, .building] 11 {
    points := Points.immediate 1
    production := [(.energy, 1)] },
  card .automatic "Peroxide Power" [.power, .building] 7 {
    production := [(.megacredits, -1), (.energy, 2)] },
  card .automatic "Lunar Beam" [.earth, .power] 13 {
    production := [(.megacredits, -2), (.heat, 2), (.energy, 2)] },
  card .automatic "Lightning Harvest" [.power] 8 {
    requirements := [.minTags .science 3]
    points := Points.immediate 1
    production := [(.energy, 1), (.megacredits, 1)] },
  card .automatic "Power Grid" [.power] 18 {
    impacts := [.gainProductionPerOwnTag .power 1 .energy 1] },
  card .automatic "Biomass Combustors" [.power, .building] 4 {
    requirements := [.minOxygen 6]
    points := Points.immediate (-1)
    production := [(.energy, 2)]
    anyProduction := [(.plants, -1)] },
  card .automatic "Heat Trappers" [.power, .building] 6 {
    points := Points.immediate (-1)
    production := [(.energy, 1)]
    anyProduction := [(.heat, -2)] },
  card .automatic "Carbonate Processing" [.building] 6 {
    production := [(.energy, -1), (.heat, 3)] },
  card .automatic "Food Factory" [.building] 12 {
    points := Points.immediate 1
    production := [(.plants, -1), (.megacredits, 4)] },
  card .automatic "Mine" [.building] 4 { production := [(.steel, 1)] },
  card .automatic "Strip Mine" [.building] 25 {
    production := [(.energy, -2), (.steel, 2), (.titanium, 1)]
    impacts := [.raiseOxygen, .raiseOxygen] },
  card .automatic "Great Escarpment Consortium" [] 6 {
    requirements := [.minProduction .steel 1]
    production := [(.steel, 1)]
    anyProduction := [(.steel, -1)] },
  card .active "Development Center" [.science, .building] 11 {
    actions := [.spendResource (.of .energy 1) [.drawCard 1]] },
  card .active "Equatorial Magnetizer" [.building] 11 {
    actions := [.spendProduction .energy 1 [.raiseTerraformRating]] },
  card .active "Water Splitting Plant" [.building] 12 {
    requirements := [.minOceans 2]
    actions := [.spendResource (.of .energy 3) [.raiseOxygen]] },
  card .active "Steelworks" [.building] 15 {
    actions := [.spendResource (.of .energy 4) [.gainResource .steel 2, .raiseOxygen]] },
  card .active "Ironworks" [.building] 11 {
    actions := [.spendResource (.of .energy 4) [.gainResource .steel 1, .raiseOxygen]] },
  card .active "Ore Processor" [.building] 13 {
    actions := [.spendResource (.of .energy 4) [.gainResource .titanium 1, .raiseOxygen]] },
  card .active "Aquifer Pumping" [.building] 18 {
    actions := [.spendResource (.building 8) [.placeOcean]] },
  card .active "Caretaker Contract" [] 3 {
    requirements := [.minTemperature 0]
    actions := [.spendResource (.of .heat 8) [.raiseTerraformRating]] },
  card .active "Electro Catapult" [.building] 17 {
    requirements := [.maxOxygen 8]
    points := Points.immediate 1
    production := [(.energy, -1)]
    actions := [.spendResource (.of .plants 1) [.gainResource .megacredits 7]] }]

def scienceAndEarth : List Card := [
  card .automatic "Research" [.science, .science] 11 {
    points := Points.immediate 1
    impacts := [.drawCard 2] },
  card .active "Physics Complex" [.science, .building] 12 {
    points := Points.perCardResource 2 1 .science
    actions := [.spendResource (.of .energy 6) [.addResourceToSameCard .science]] },
  card .automatic "Sponsors" [.earth] 6 { production := [(.megacredits, 2)] },
  card .automatic "Miranda Resort" [.jovian, .space] 12 {
    points := Points.immediate 1
    impacts := [.gainProductionPerOwnTag .earth 1 .megacredits 1] }]

/-- Every card of the base deck. -/
def cards : List Card :=
  jovianAndSpace ++ events ++ cities ++ specialTiles ++ plants ++ microbesAndAnimals ++
    powerAndIndustry ++ scienceAndEarth

end Terraforming.BaseDeck

namespace Terraforming

/-- The catalog of the base game. -/
def Catalog.base : Catalog := ⟨"base", BaseDeck.cards, by decide +kernel⟩

end Terraforming
