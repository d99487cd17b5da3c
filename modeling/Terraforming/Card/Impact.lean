import Terraforming.Card.Terms
import Terraforming.Resource

/-!
# Impacts

An impact is a one-shot change caused by playing a card or using an action.  An impact of type
`oneOf` offers its options, which are impacts again, so impacts form trees; `walk` lists the nodes
of a tree and `size` counts them.
-/

namespace Terraforming

inductive ImpactType where
  | raiseTemperature
  | raiseOxygen
  | raiseTerraformRating
  | gainTerraformRatingPerOwnTag
  | placeOcean
  | placeGreenery
  | placeCity
  | placeSpecialTile
  | drawCard
  | addResourceToSameCard
  | addResourceToAnotherCard
  | addResourceToAnyCard
  | removeResourceFromAnyCard
  | gainResource
  | gainResourcePerCity
  | gainResourcePerCityOnMars
  | destroyOwnPlants
  | destroyAnyPlants
  | gainProduction
  | gainProductionPerCity
  | gainProductionPerCityOnMars
  | gainProductionPerOwnTag
  | gainProductionPerOpponentTag
  | gainProductionPerAnyTag
  | reduceAnyProduction
  | copyProductionOfCard
  | discountNextCard
  | oneOf
deriving DecidableEq, Repr

namespace ImpactType

def word : ImpactType → String
  | raiseTemperature => "raise_temperature"
  | raiseOxygen => "raise_oxygen"
  | raiseTerraformRating => "raise_terraform_rating"
  | gainTerraformRatingPerOwnTag => "gain_terraform_rating_per_own_tag"
  | placeOcean => "place_ocean"
  | placeGreenery => "place_greenery"
  | placeCity => "place_city"
  | placeSpecialTile => "place_special_tile"
  | drawCard => "draw_card"
  | addResourceToSameCard => "add_resource_to_same_card"
  | addResourceToAnotherCard => "add_resource_to_another_card"
  | addResourceToAnyCard => "add_resource_to_any_card"
  | removeResourceFromAnyCard => "remove_resource_from_any_card"
  | gainResource => "gain_resource"
  | gainResourcePerCity => "gain_resource_per_city"
  | gainResourcePerCityOnMars => "gain_resource_per_city_on_mars"
  | destroyOwnPlants => "destroy_own_plants"
  | destroyAnyPlants => "destroy_any_plants"
  | gainProduction => "gain_production"
  | gainProductionPerCity => "gain_production_per_city"
  | gainProductionPerCityOnMars => "gain_production_per_city_on_mars"
  | gainProductionPerOwnTag => "gain_production_per_own_tag"
  | gainProductionPerOpponentTag => "gain_production_per_opponent_tag"
  | gainProductionPerAnyTag => "gain_production_per_any_tag"
  | reduceAnyProduction => "reduce_any_production"
  | copyProductionOfCard => "copy_production_of_card"
  | discountNextCard => "discount_next_card"
  | oneOf => "one_of"

def all : List ImpactType :=
  [raiseTemperature, raiseOxygen, raiseTerraformRating, gainTerraformRatingPerOwnTag, placeOcean,
   placeGreenery, placeCity, placeSpecialTile, drawCard, addResourceToSameCard,
   addResourceToAnotherCard, addResourceToAnyCard, removeResourceFromAnyCard, gainResource,
   gainResourcePerCity, gainResourcePerCityOnMars, destroyOwnPlants, destroyAnyPlants,
   gainProduction, gainProductionPerCity, gainProductionPerCityOnMars, gainProductionPerOwnTag,
   gainProductionPerOpponentTag, gainProductionPerAnyTag, reduceAnyProduction,
   copyProductionOfCard, discountNextCard, oneOf]

instance : Vocabulary ImpactType := ⟨all, word⟩

end ImpactType

/-- One change.  What a type of impact does not use stays unset; an impact per tag reads "gain
`count` for every `per` tags of `tag`". -/
structure Impact where
  type : ImpactType
  count : Int := 0
  resource : Option Resource := none
  cardResource : Option CardResource := none
  tag : Option CardTag := none
  per : Int := 1
  cityKind : Option CityKind := none
  locationKind : Option LocationKind := none
  specialTile : Option SpecialTile := none
  options : List Impact := []
deriving Repr

namespace Impact

/-! ## The tree of options -/

mutual

/-- The impact and every option below it, each before its own options. -/
def walk : Impact → List Impact
  | ⟨type, count, resource, cardResource, tag, per, city, ground, tile, options⟩ =>
    ⟨type, count, resource, cardResource, tag, per, city, ground, tile, options⟩ :: walkAll options

def walkAll : List Impact → List Impact
  | [] => []
  | i :: is => walk i ++ walkAll is

end

mutual

/-- The number of impacts in the tree. -/
def size : Impact → Nat
  | ⟨_, _, _, _, _, _, _, _, _, options⟩ => 1 + sizeAll options

def sizeAll : List Impact → Nat
  | [] => 0
  | i :: is => size i + sizeAll is

end

theorem size_eq (i : Impact) : i.size = 1 + sizeAll i.options := by
  cases i; rfl

theorem size_pos (i : Impact) : 0 < i.size := by
  rw [size_eq]
  omega

theorem size_le_sizeAll {i : Impact} : ∀ {is : List Impact}, i ∈ is → i.size ≤ sizeAll is
  | j :: js, h => by
    simp only [sizeAll]
    rcases List.mem_cons.1 h with rfl | h
    · omega
    · have := size_le_sizeAll h
      omega

/-- Choosing an option leaves a smaller tree. -/
theorem size_lt_of_mem_options {i j : Impact} (h : j ∈ i.options) : j.size < i.size := by
  have := size_le_sizeAll h
  rw [size_eq i]
  omega

/-! ## Equality -/

mutual

/-- Whether two impacts are the same tree. -/
def decEq : (a b : Impact) → Decidable (a = b)
  | ⟨t, n, r, cr, g, p, c, l, s, os⟩, ⟨t', n', r', cr', g', p', c', l', s', os'⟩ =>
    if h : (t, n, r, cr, g) = (t', n', r', cr', g') ∧ (p, c, l, s) = (p', c', l', s') then
      match decEqAll os os' with
      | isTrue hs => isTrue (by simp_all)
      | isFalse hs => isFalse (by simp_all)
    else isFalse (by simp_all)

def decEqAll : (as bs : List Impact) → Decidable (as = bs)
  | [], [] => isTrue rfl
  | [], _ :: _ => isFalse (by simp)
  | _ :: _, [] => isFalse (by simp)
  | a :: as, b :: bs =>
    match decEq a b with
    | isFalse h => isFalse (by simp [h])
    | isTrue h =>
      match decEqAll as bs with
      | isTrue hs => isTrue (by simp [h, hs])
      | isFalse hs => isFalse (by simp [hs])

end

instance : DecidableEq Impact := decEq

/-! ## Trigger patterns -/

/-- A parameter that a pattern leaves unset accepts everything. -/
def accepts {α : Type} [DecidableEq α] (wanted actual : Option α) : Bool :=
  wanted.isNone || decide (actual = wanted)

/-- Whether the impact fits a trigger pattern: the same type, and every parameter that the pattern
sets. -/
def fits (i trigger : Impact) : Bool :=
  decide (i.type = trigger.type) && accepts trigger.resource i.resource &&
    accepts trigger.cardResource i.cardResource && accepts trigger.tag i.tag &&
    accepts trigger.cityKind i.cityKind && accepts trigger.locationKind i.locationKind &&
    accepts trigger.specialTile i.specialTile

/-! ## Naming impacts -/

def raiseTemperature : Impact := { type := .raiseTemperature }

def raiseOxygen : Impact := { type := .raiseOxygen }

def raiseTerraformRating (count : Int := 1) : Impact := { type := .raiseTerraformRating, count }

def gainTerraformRatingPerOwnTag (count : Int) (tag : CardTag) (per : Int := 1) : Impact :=
  { type := .gainTerraformRatingPerOwnTag, count, tag, per }

/-- An ocean; without a kind it goes on the spaces reserved for oceans. -/
def placeOcean (kind : Option LocationKind := none) : Impact :=
  { type := .placeOcean, locationKind := kind }

/-- A greenery; without a kind it goes on any land. -/
def placeGreenery (kind : Option LocationKind := none) : Impact :=
  { type := .placeGreenery, locationKind := kind }

/-- A city.  Without a kind it means something in a trigger pattern only. -/
def placeCity (kind : Option CityKind := some .regular) : Impact :=
  { type := .placeCity, cityKind := kind }

def placeSpecialTile (tile : SpecialTile) : Impact :=
  { type := .placeSpecialTile, specialTile := tile }

def drawCard (count : Int := 1) : Impact := { type := .drawCard, count }

def addResourceToSameCard (kind : CardResource) (count : Int := 1) : Impact :=
  { type := .addResourceToSameCard, cardResource := kind, count }

def addResourceToAnotherCard (kind : CardResource) (count : Int := 1) : Impact :=
  { type := .addResourceToAnotherCard, cardResource := kind, count }

def addResourceToAnyCard (kind : CardResource) (count : Int := 1) : Impact :=
  { type := .addResourceToAnyCard, cardResource := kind, count }

def removeResourceFromAnyCard (kind : CardResource) (count : Int := 1) : Impact :=
  { type := .removeResourceFromAnyCard, cardResource := kind, count }

def gainResource (resource : Resource) (count : Int) : Impact :=
  { type := .gainResource, resource, count }

def gainResourcePerCity (resource : Resource) (count : Int) (onMarsOnly : Bool := false) :
    Impact :=
  { type := if onMarsOnly then .gainResourcePerCityOnMars else .gainResourcePerCity
    resource
    count }

def gainProduction (resource : Resource) (count : Int) : Impact :=
  { type := .gainProduction, resource, count }

def gainProductionPerCity (resource : Resource) (count : Int) (onMarsOnly : Bool := false) :
    Impact :=
  { type := if onMarsOnly then .gainProductionPerCityOnMars else .gainProductionPerCity,
    resource, count }

def gainProductionPerOwnTag (tag : CardTag) (per : Int) (resource : Resource) (count : Int) :
    Impact :=
  { type := .gainProductionPerOwnTag, tag, per, resource, count }

def gainProductionPerOpponentTag (tag : CardTag) (per : Int) (resource : Resource) (count : Int) :
    Impact :=
  { type := .gainProductionPerOpponentTag, tag, per, resource, count }

def gainProductionPerAnyTag (tag : CardTag) (per : Int) (resource : Resource) (count : Int) :
    Impact :=
  { type := .gainProductionPerAnyTag, tag, per, resource, count }

def reduceAnyProduction (resource : Resource) (count : Int) : Impact :=
  { type := .reduceAnyProduction, resource, count }

def destroyOwnPlants (count : Int) : Impact := { type := .destroyOwnPlants, count }

def destroyAnyPlants (count : Int) : Impact := { type := .destroyAnyPlants, count }

def copyProductionOfCard (tag : CardTag) : Impact := { type := .copyProductionOfCard, tag }

def discountNextCard (count : Int) : Impact := { type := .discountNextCard, count }

def oneOf (options : List Impact) : Impact := { type := .oneOf, options }

end Impact

end Terraforming
