import Terraforming.Card.Basic
import Terraforming.Game.Honors
import Terraforming.Player.Requirements
import Terraforming.Turn.Choice

/-!
# Refusals

The reasons for which the rules do not permit a move.
-/

namespace Terraforming

inductive Refusal where
  | cardNotInHand (card : String)
  | unmet (reasons : List String)
  | productionTooLow (r : Resource) (loss : Int)
  | cardNotInPlay (instanceId : Option Int)
  | cardWithoutActions (card : String)
  | actionAlreadyUsed (card : String)
  | noSuchAction (card : String) (index : Int)
  | temperatureAtMaximum
  | oceansExhausted
  | cannotPay (cost : Cost)
  | unknownMilestone (name : Option String)
  | milestoneClaimed (name : String)
  | milestonesExhausted
  | milestoneNotReached (m : Milestone)
  | milestoneTooExpensive
  | unknownAward (name : Option String)
  | awardFunded (name : String)
  | awardsExhausted
  | awardTooExpensive (cost : Nat)
  | illegalAnswer (choice : Choice) (type : ImpactType)
  | noLegalLocation (type : ImpactType)
  | noCardForResources
  | nothingRemovable (kind : CardResource)
  | notEnough (r : Resource)
  | notEnoughPlants (loss : Int)
  | cannotCopy (card : String) (r : Resource)
  | holdsTooFew (card : String) (held : Int) (kind : CardResource) (needed : Int)
  | cannotSpendProduction (r : Resource)
  | nothingToReveal
deriving DecidableEq

namespace Refusal

def message : Refusal → String
  | cardNotInHand card => card ++ " is not in hand"
  | unmet reasons => "; ".intercalate reasons
  | productionTooLow r loss =>
    "not enough " ++ r.word ++ " production to lose " ++ toString loss
  | cardNotInPlay i => "card #" ++ optionalText i ++ " is not in play"
  | cardWithoutActions card => card ++ " has no actions"
  | actionAlreadyUsed card => card ++ " was already used this generation"
  | noSuchAction card index => card ++ " has no action " ++ toString index
  | temperatureAtMaximum => "temperature is already at its maximum"
  | oceansExhausted => "every ocean is already placed"
  | cannotPay cost => Player.cannotPay cost
  | unknownMilestone name => "unknown milestone '" ++ name.getD "None" ++ "'"
  | milestoneClaimed name => name ++ " is already claimed"
  | milestonesExhausted => "all milestones are claimed"
  | milestoneNotReached m => m.word ++ " requires " ++ m.description
  | milestoneTooExpensive => "claiming costs " ++ toString Milestone.cost ++ " MC"
  | unknownAward name => "unknown award '" ++ name.getD "None" ++ "'"
  | awardFunded name => name ++ " is already funded"
  | awardsExhausted => "all awards are funded"
  | awardTooExpensive cost => "funding costs " ++ toString cost ++ " MC"
  | illegalAnswer choice type => choice.text ++ " is not a legal answer for " ++ type.word
  | noLegalLocation type => "no legal location for " ++ type.word
  | noCardForResources => "there is no card to hold the resources"
  | nothingRemovable kind => "no card holds removable " ++ kind.word ++ " resources"
  | notEnough r => "not enough " ++ r.word
  | notEnoughPlants loss => "not enough plants to lose " ++ toString loss
  | cannotCopy card r => "cannot copy " ++ card ++ ": not enough " ++ r.word ++ " production"
  | holdsTooFew card held kind needed =>
    card ++ " holds " ++ toString held ++ " " ++ kind.word ++ ", needs " ++ toString needed
  | cannotSpendProduction r => "not enough " ++ r.word ++ " production"
  | nothingToReveal => "there is no card left to reveal"

end Refusal

end Terraforming
