import Terraforming.Data.Vocabulary

/-!
# Types of operation

The closed list of changes that the operation log of a game is made of.
-/

namespace Terraforming

inductive OperationType where
  | changeResources
  | changeProduction
  | changeCardResource
  | drawCards
  | discardCards
  | putCardIntoPlay
  | placeCityTile
  | placeGreenery
  | placeSpecialTile
  | placeOcean
  | raiseTemperature
  | raiseOxygen
  | raiseTerraformRating
  | addEffect
  | consumeNextCardEffects
  | markCardActionUsed
  | resetCardActions
  | purchaseCards
  | produce
  | advanceGeneration
  | claimMilestone
  | fundAward
deriving DecidableEq, Repr

namespace OperationType

def word : OperationType → String
  | changeResources => "change_resources"
  | changeProduction => "change_production"
  | changeCardResource => "change_card_resource"
  | drawCards => "draw_cards"
  | discardCards => "discard_cards"
  | putCardIntoPlay => "put_card_into_play"
  | placeCityTile => "place_city_tile"
  | placeGreenery => "place_greenery"
  | placeSpecialTile => "place_special_tile"
  | placeOcean => "place_ocean"
  | raiseTemperature => "raise_temperature"
  | raiseOxygen => "raise_oxygen"
  | raiseTerraformRating => "raise_terraform_rating"
  | addEffect => "add_effect"
  | consumeNextCardEffects => "consume_next_card_effects"
  | markCardActionUsed => "mark_card_action_used"
  | resetCardActions => "reset_card_actions"
  | purchaseCards => "purchase_cards"
  | produce => "produce"
  | advanceGeneration => "advance_generation"
  | claimMilestone => "claim_milestone"
  | fundAward => "fund_award"

def all : List OperationType :=
  [changeResources, changeProduction, changeCardResource, drawCards, discardCards,
   putCardIntoPlay, placeCityTile, placeGreenery, placeSpecialTile, placeOcean, raiseTemperature,
   raiseOxygen, raiseTerraformRating, addEffect, consumeNextCardEffects, markCardActionUsed,
   resetCardActions, purchaseCards, produce, advanceGeneration, claimMilestone, fundAward]

instance : Vocabulary OperationType := ⟨all, word⟩

end OperationType

end Terraforming
