import Terraforming.Card.Impact

/-!
# Passive effects

An effect is always on while its card is in play.  Some are read when a price, a metal value or a
protection is worked out; the others are triggers, which answer a played tag or a resolved impact
with a gain.
-/

namespace Terraforming

inductive EffectType where
  | anyCardDiscount
  | cardDiscountForTag
  /-- Megacredits back for every such tag on a card that the owner plays. -/
  | rebateAfterPlayingCardTag
  | increasedMetalsValue
  | cannotRemoveThisCardResource
  | cannotRemoveAnyCardResources
  | gainCardResourceForOwnImpact
  | gainResourceForOwnImpact
  | gainCardResourceForAnyImpact
  | gainResourceForAnyImpact
  | gainProductionForOwnImpact
  | gainProductionForAnyImpact
  | gainProductionForAnyTagPlayed
deriving DecidableEq, Repr

namespace EffectType

def word : EffectType → String
  | anyCardDiscount => "any_card_discount"
  | cardDiscountForTag => "card_discount_for_tag"
  | rebateAfterPlayingCardTag => "rebate_after_playing_card_tag"
  | increasedMetalsValue => "increased_metals_value"
  | cannotRemoveThisCardResource => "cannot_remove_this_card_resource"
  | cannotRemoveAnyCardResources => "cannot_remove_any_card_resources"
  | gainCardResourceForOwnImpact => "gain_card_resource_for_own_impact"
  | gainResourceForOwnImpact => "gain_resource_for_own_impact"
  | gainCardResourceForAnyImpact => "gain_card_resource_for_any_impact"
  | gainResourceForAnyImpact => "gain_resource_for_any_impact"
  | gainProductionForOwnImpact => "gain_production_for_own_impact"
  | gainProductionForAnyImpact => "gain_production_for_any_impact"
  | gainProductionForAnyTagPlayed => "gain_production_for_any_tag_played"

def all : List EffectType :=
  [anyCardDiscount, cardDiscountForTag, rebateAfterPlayingCardTag, increasedMetalsValue,
   cannotRemoveThisCardResource, cannotRemoveAnyCardResources, gainCardResourceForOwnImpact,
   gainResourceForOwnImpact, gainCardResourceForAnyImpact, gainResourceForAnyImpact,
   gainProductionForOwnImpact, gainProductionForAnyImpact, gainProductionForAnyTagPlayed]

instance : Vocabulary EffectType := ⟨all, word⟩

end EffectType

/-- The gains that answer an impact of the owner only. -/
def EffectType.answersOwnImpact : EffectType → Bool
  | gainCardResourceForOwnImpact | gainResourceForOwnImpact | gainProductionForOwnImpact => true
  | _ => false

/-- The gains that answer an impact of anyone. -/
def EffectType.answersAnyImpact : EffectType → Bool
  | gainCardResourceForAnyImpact | gainResourceForAnyImpact | gainProductionForAnyImpact => true
  | _ => false

/-- The gains that answer an impact, the owner's or anyone's. -/
def EffectType.answersImpact (t : EffectType) : Bool :=
  t.answersOwnImpact || t.answersAnyImpact

/-- One printed effect.  What a type of effect does not use stays unset. -/
structure Effect where
  type : EffectType
  count : Int := 0
  tag : Option CardTag := none
  resource : Option Resource := none
  cardResource : Option CardResource := none
  cardResources : List CardResource := []
  triggers : List Impact := []
deriving DecidableEq, Repr

namespace Effect

def anyCardDiscount (count : Int) : Effect := { type := .anyCardDiscount, count }

def cardDiscountForTag (tag : CardTag) (count : Int) : Effect :=
  { type := .cardDiscountForTag, tag, count }

def rebateAfterPlayingTag (tag : CardTag) (count : Int) : Effect :=
  { type := .rebateAfterPlayingCardTag, tag, count }

def increasedMetalsValue (count : Int) : Effect := { type := .increasedMetalsValue, count }

def cannotRemoveThisCardResource (kind : CardResource) : Effect :=
  { type := .cannotRemoveThisCardResource, cardResource := kind }

def cannotRemoveAnyCardResources (kinds : List CardResource) : Effect :=
  { type := .cannotRemoveAnyCardResources, cardResources := kinds }

/-- A gain that answers impacts; `type` says which gain, and whose impacts. -/
def onImpact (type : EffectType) (count : Int) (triggers : List Impact)
    (resource : Option Resource := none) (cardResource : Option CardResource := none) : Effect :=
  { type, count, resource, cardResource, triggers }

def gainProductionForAnyTagPlayed (resource : Resource) (count : Int) (tag : CardTag) : Effect :=
  { type := .gainProductionForAnyTagPlayed, resource, count, tag }

end Effect

end Terraforming
