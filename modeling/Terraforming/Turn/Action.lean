import Terraforming.Card.Basic
import Terraforming.Fault

/-!
# Turn actions

What a player can do with a turn.
-/

namespace Terraforming

inductive StandardProject where
  | powerPlant
  | asteroid
  | aquifer
  | greenery
  | city
  | convertPlants
  | convertHeat
deriving DecidableEq, Repr

namespace StandardProject

def word : StandardProject → String
  | powerPlant => "power_plant"
  | asteroid => "asteroid"
  | aquifer => "aquifer"
  | greenery => "greenery"
  | city => "city"
  | convertPlants => "convert_plants"
  | convertHeat => "convert_heat"

def all : List StandardProject :=
  [powerPlant, asteroid, aquifer, greenery, city, convertPlants, convertHeat]

instance : Vocabulary StandardProject := ⟨all, word⟩

def cost : StandardProject → Cost
  | powerPlant => .megacredits 11
  | asteroid => .megacredits 14
  | aquifer => .megacredits 18
  | greenery => .megacredits 23
  | city => .megacredits 25
  | convertPlants => .of .plants 8
  | convertHeat => .of .heat 8

def impacts : StandardProject → List Impact
  | powerPlant => [.gainProduction .energy 1]
  | asteroid | convertHeat => [.raiseTemperature]
  | aquifer => [.placeOcean]
  | greenery | convertPlants => [.placeGreenery]
  | city => [.placeCity, .gainProduction .megacredits 1]

def needsColdPlanet : StandardProject → Bool
  | asteroid | convertHeat => true
  | _ => false

end StandardProject

inductive TurnActionType where
  | playCard
  | performAction
  | standardProject
  | claimMilestone
  | fundAward
  | pass
deriving DecidableEq, Repr

namespace TurnActionType

def word : TurnActionType → String
  | playCard => "play_card"
  | performAction => "perform_action"
  | standardProject => "standard_project"
  | claimMilestone => "claim_milestone"
  | fundAward => "fund_award"
  | pass => "pass"

def all : List TurnActionType :=
  [playCard, performAction, standardProject, claimMilestone, fundAward, pass]

instance : Vocabulary TurnActionType := ⟨all, word⟩

end TurnActionType

/-- What a player does with a turn.  What a type of action does not use stays unset. -/
structure TurnAction where
  type : TurnActionType
  card : Option Card := none
  instanceId : Option Int := none
  index : Int := 0
  project : Option StandardProject := none
  name : Option String := none
deriving DecidableEq

namespace TurnAction

def playCard (card : Card) : TurnAction := { type := .playCard, card }

def performAction (instanceId index : Int) : TurnAction :=
  { type := .performAction, instanceId, index }

def standardProject (project : StandardProject) : TurnAction :=
  { type := .standardProject, project }

def claimMilestone (name : String) : TurnAction := { type := .claimMilestone, name }

def fundAward (name : String) : TurnAction := { type := .fundAward, name }

def pass : TurnAction := { type := .pass }

/-- The action in words.  Playing needs a card, and a project one that is named. -/
def description (a : TurnAction) : Except Fault String :=
  match a.type with
  | .playCard =>
    match a.card with
    | some c => .ok ("play " ++ c.name)
    | none => .error .unset
  | .performAction =>
    .ok ("use action " ++ toString a.index ++ " of card #" ++ optionalText a.instanceId)
  | .standardProject =>
    match a.project with
    | some p => .ok ("standard project " ++ p.word)
    | none => .error .unset
  | .claimMilestone => .ok ("claim milestone " ++ a.name.getD "None")
  | .fundAward => .ok ("fund award " ++ a.name.getD "None")
  | .pass => .ok "pass"

end TurnAction

end Terraforming
