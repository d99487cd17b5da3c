import Terraforming.Catalog.Base

/-!
# The corporate era

More cards, about discounts, rebates and production that counts tags.
-/

namespace Terraforming.CorporateDeck

open Design (card)

def cards : List Card := [
  card .automatic "Earth Office" [.earth] 1 { effects := [.cardDiscountForTag .earth 3] },
  card .automatic "Earth Catapult" [.earth] 23 {
    points := Points.immediate 2
    effects := [.anyCardDiscount 2] },
  card .automatic "Anti-Gravity Technology" [.science] 14 {
    requirements := [.minTags .science 7]
    points := Points.immediate 3
    effects := [.anyCardDiscount 2] },
  card .automatic "Advanced Alloys" [.science] 9 { effects := [.increasedMetalsValue 1] },
  card .automatic "Media Group" [.earth] 6 { effects := [.rebateAfterPlayingTag .event 3] },
  card .automatic "Mars University" [.science, .building] 8 {
    points := Points.immediate 1
    effects := [.rebateAfterPlayingTag .science 1] },
  card .event "Indentured Workers" [] 0 {
    points := Points.immediate (-1)
    impacts := [.discountNextCard 8] },
  card .automatic "Robotic Workforce" [.science] 9 {
    impacts := [.copyProductionOfCard .building] },
  card .automatic "Medical Lab" [.science, .building] 13 {
    points := Points.immediate 1
    impacts := [.gainProductionPerOwnTag .building 2 .megacredits 1] },
  card .automatic "Gene Repair" [.science] 12 {
    requirements := [.minTags .science 3]
    points := Points.immediate 2
    production := [(.megacredits, 2)] },
  card .automatic "Satellites" [.space] 10 {
    impacts := [.gainProductionPerOwnTag .space 1 .megacredits 1] },
  card .automatic "Toll Station" [.space] 12 {
    impacts := [.gainProductionPerOpponentTag .space 1 .megacredits 1] },
  card .automatic "Galilean Waystation" [.space] 15 {
    points := Points.immediate 1
    impacts := [.gainProductionPerAnyTag .jovian 1 .megacredits 1] },
  card .automatic "Power Supply Consortium" [.power] 5 {
    requirements := [.minTags .power 2]
    production := [(.energy, 1)]
    anyProduction := [(.energy, -1)] },
  card .automatic "Trans-Neptune Probe" [.science, .space] 6 { points := Points.immediate 1 },
  card .active "Martian Rails" [.building] 13 {
    actions := [.spendResource (.of .energy 1) [.gainResourcePerCity .megacredits 1 true]] },
  card .automatic "Saturn Systems" [.jovian] 22 {
    points := Points.immediate 1
    production := [(.titanium, 1)]
    effects := [.gainProductionForAnyTagPlayed .megacredits 1 .jovian] },
  card .event "Investment Loan" [.earth] 3 {
    production := [(.megacredits, -1)]
    impacts := [.gainResource .megacredits 10] },
  card .automatic "Cartel" [.earth] 8 {
    impacts := [.gainProductionPerOwnTag .earth 1 .megacredits 1] }]

end Terraforming.CorporateDeck

namespace Terraforming

/-- The catalog of the base game and the corporate era. -/
def Catalog.corporate : Catalog :=
  ⟨"corporate", BaseDeck.cards ++ CorporateDeck.cards, by decide +kernel⟩

/-- The built-in catalogs, by name. -/
def Catalog.builtin : List Catalog := [.base, .corporate]

/-- The built-in catalog of a name. -/
def Catalog.builtin? (name : String) : Option Catalog :=
  Catalog.builtin.find? fun c => c.name = name

end Terraforming
