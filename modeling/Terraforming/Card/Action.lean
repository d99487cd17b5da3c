import Terraforming.Card.Impact
import Terraforming.Cost

/-!
# Card actions

An action is printed on an active card and may be used once in a generation: a price is paid, and
then the impacts happen.
-/

namespace Terraforming

inductive ActionType where
  | causeFreeImpact
  | spendResource
  | spendSameCardResource
  | spendProduction
  /-- Pay, reveal and discard the top card of the deck; the impacts happen if it has the tag. -/
  | revealCardForTag
deriving DecidableEq, Repr

namespace ActionType

def word : ActionType → String
  | causeFreeImpact => "cause_free_impact"
  | spendResource => "spend_resource"
  | spendSameCardResource => "spend_same_card_resource"
  | spendProduction => "spend_production"
  | revealCardForTag => "reveal_card_for_tag"

def all : List ActionType :=
  [causeFreeImpact, spendResource, spendSameCardResource, spendProduction, revealCardForTag]

instance : Vocabulary ActionType := ⟨all, word⟩

end ActionType

/-- One printed action.  What a type of action does not use stays unset. -/
structure Action where
  type : ActionType
  impacts : List Impact := []
  cost : Option Cost := none
  resource : Option Resource := none
  cardResource : Option CardResource := none
  count : Int := 0
  tag : Option CardTag := none
deriving DecidableEq, Repr

namespace Action

def free (impacts : List Impact) : Action := { type := .causeFreeImpact, impacts }

def spendResource (cost : Cost) (impacts : List Impact) : Action :=
  { type := .spendResource, impacts, cost }

def spendCardResource (kind : CardResource) (count : Int) (impacts : List Impact) : Action :=
  { type := .spendSameCardResource, impacts, cardResource := kind, count }

def spendProduction (resource : Resource) (count : Int) (impacts : List Impact) : Action :=
  { type := .spendProduction, impacts, resource, count }

def revealCard (cost : Cost) (tag : CardTag) (impacts : List Impact) : Action :=
  { type := .revealCardForTag, impacts, cost, tag }

end Action

end Terraforming
