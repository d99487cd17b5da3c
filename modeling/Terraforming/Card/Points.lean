import Terraforming.Card.Terms
import Terraforming.Resource

/-!
# Victory points of a card

The formula that a card in play is scored by when the game ends.
-/

namespace Terraforming

inductive PointsType where
  | immediate
  /-- `points` for each city the player owns. -/
  | perCity
  /-- One point for every `per` cities in play. -/
  | perNCities
  /-- `points` for every `per` tags of `tag`. -/
  | perTag
  /-- `points` for every `per` resources on the card. -/
  | perCardResource
  /-- `points` if there is a resource on the card. -/
  | fixedIfAnyCardResource
deriving DecidableEq, Repr

namespace PointsType

def word : PointsType → String
  | immediate => "immediate"
  | perCity => "per_city"
  | perNCities => "per_n_cities"
  | perTag => "per_tag"
  | perCardResource => "per_card_resource"
  | fixedIfAnyCardResource => "fixed_if_any_card_resource"

def all : List PointsType :=
  [immediate, perCity, perNCities, perTag, perCardResource, fixedIfAnyCardResource]

instance : Vocabulary PointsType := ⟨all, word⟩

end PointsType

structure Points where
  type : PointsType
  points : Int := 1
  per : Int := 1
  tag : Option CardTag := none
  cardResource : Option CardResource := none
deriving DecidableEq, Repr

namespace Points

def immediate (points : Int) : Points := { type := .immediate, points }

def perCity (points : Int := 1) : Points := { type := .perCity, points }

def perNCities (per : Int) : Points := { type := .perNCities, per }

def perTag (points per : Int) (tag : CardTag) : Points := { type := .perTag, points, per, tag }

def perCardResource (points per : Int) (kind : CardResource) : Points :=
  { type := .perCardResource, points, per, cardResource := kind }

def fixedIfAnyCardResource (points : Int) (kind : CardResource) : Points :=
  { type := .fixedIfAnyCardResource, points, cardResource := kind }

end Points

end Terraforming
