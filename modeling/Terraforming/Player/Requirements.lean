import Terraforming.Board.Basic
import Terraforming.Player.Payment

/-!
# Requirements of a card

Whether a player may play a card on a board, and what to say when not.
-/

namespace Terraforming

/-- What a requirement asks for, in words. -/
def Requirement.description (r : Requirement) : String :=
  let value := toString r.value
  let tag := (r.tag.map word).getD ""
  let resource := (r.resource.map word).getD ""
  match r.type with
  | .maxOxygen => "oxygen must be at most " ++ value ++ "%"
  | .minOxygen => "oxygen must be at least " ++ value ++ "%"
  | .maxTemperature => "temperature must be at most " ++ value ++ "C"
  | .minTemperature => "temperature must be at least " ++ value ++ "C"
  | .maxOceans => "at most " ++ value ++ " oceans may be placed"
  | .minOceans => "at least " ++ value ++ " oceans must be placed"
  | .minTags => "requires " ++ value ++ " " ++ tag ++ " tags"
  | .minCities => "requires " ++ value ++ " cities in play"
  | .minOwnedGreeneries => "requires " ++ value ++ " owned greeneries"
  | .minProduction => "requires " ++ value ++ " " ++ resource ++ " production"

namespace Player

def fulfils (p : Player) (b : Board) (r : Requirement) : Except Fault Bool :=
  match r.type with
  | .maxOxygen => .ok (b.oxygen ≤ r.value)
  | .minOxygen => .ok (r.value ≤ b.oxygen)
  | .maxTemperature => .ok (b.temperature ≤ r.value)
  | .minTemperature => .ok (r.value ≤ b.temperature)
  | .maxOceans => .ok (b.oceanCount ≤ r.value)
  | .minOceans => .ok (r.value ≤ b.oceanCount)
  | .minTags => (p.tagCount r.tag).map fun n => r.value ≤ n
  | .minCities => .ok (r.value ≤ b.cityCount)
  | .minOwnedGreeneries => .ok (r.value ≤ (b.greeneriesOf p.id).length)
  | .minProduction => .ok (r.value ≤ p.productionOf r.resource)

/-- Whether all of some requirements are fulfilled, looking no further than the first that is
not. -/
def fulfilsAll (p : Player) (b : Board) : List Requirement → Except Fault Bool
  | [] => .ok true
  | r :: rs => do if ← p.fulfils b r then p.fulfilsAll b rs else return false

/-- The requirements of a card that are not fulfilled. -/
def unfulfilled (p : Player) (b : Board) (c : Card) : Except Fault (List Requirement) :=
  c.requirements.filterM fun r => do return !(← p.fulfils b r)

/-- Why there is no paying a cost, in words. -/
def cannotPay (c : Cost) : String :=
  "cannot pay " ++ toString c.amount ++ " (" ++ c.currency.word ++ ")"

/-- Every reason why the player cannot play a card right now. -/
def unmetRequirements (p : Player) (b : Board) (c : Card) : Except Fault (List String) := do
  let unfulfilled ← p.unfulfilled b c
  let affordable ← p.canAfford (p.effectiveCost c)
  return unfulfilled.map Requirement.description ++
    if affordable then [] else [cannotPay (p.effectiveCost c)]

def meetsRequirements (p : Player) (b : Board) (c : Card) : Except Fault Bool :=
  p.fulfilsAll b c.requirements

/-- The cost to pay for a card, if the player can play it. -/
def canPlay (p : Player) (b : Board) (c : Card) : Except Fault (Option Cost) := do
  if !(← p.meetsRequirements b c) then return none
  if !(← p.canAfford (p.effectiveCost c)) then return none
  return some (p.effectiveCost c)

end Player

end Terraforming
