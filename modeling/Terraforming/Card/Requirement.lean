import Terraforming.Card.Terms
import Terraforming.Resource

/-!
# Requirements

What must hold before a card can be played: bounds on the global parameters, and counts of what
the player owns.
-/

namespace Terraforming

inductive RequirementType where
  | maxOxygen
  | minOxygen
  | maxTemperature
  | minTemperature
  | maxOceans
  | minOceans
  | minTags
  | minCities
  | minOwnedGreeneries
  | minProduction
deriving DecidableEq, Repr

namespace RequirementType

def word : RequirementType → String
  | maxOxygen => "max_oxygen"
  | minOxygen => "min_oxygen"
  | maxTemperature => "max_temperature"
  | minTemperature => "min_temperature"
  | maxOceans => "max_oceans"
  | minOceans => "min_oceans"
  | minTags => "min_tags"
  | minCities => "min_cities"
  | minOwnedGreeneries => "min_owned_greeneries"
  | minProduction => "min_production"

def all : List RequirementType :=
  [maxOxygen, minOxygen, maxTemperature, minTemperature, maxOceans, minOceans, minTags, minCities,
   minOwnedGreeneries, minProduction]

instance : Vocabulary RequirementType := ⟨all, word⟩

end RequirementType

structure Requirement where
  type : RequirementType
  value : Int
  tag : Option CardTag := none
  resource : Option Resource := none
deriving DecidableEq, Repr

namespace Requirement

def maxOxygen (value : Int) : Requirement := { type := .maxOxygen, value }

def minOxygen (value : Int) : Requirement := { type := .minOxygen, value }

def maxTemperature (value : Int) : Requirement := { type := .maxTemperature, value }

def minTemperature (value : Int) : Requirement := { type := .minTemperature, value }

def maxOceans (value : Int) : Requirement := { type := .maxOceans, value }

def minOceans (value : Int) : Requirement := { type := .minOceans, value }

def minTags (tag : CardTag) (value : Int) : Requirement := { type := .minTags, value, tag }

def minCities (value : Int) : Requirement := { type := .minCities, value }

def minOwnedGreeneries (value : Int) : Requirement := { type := .minOwnedGreeneries, value }

def minProduction (resource : Resource) (value : Int) : Requirement :=
  { type := .minProduction, value, resource }

end Requirement

end Terraforming
