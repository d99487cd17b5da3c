import Terraforming.Card.Basic
import Terraforming.Fault

/-!
# Operations

An operation is one atomic change of a game, as the log records it: a type, and whatever fields
were given.  A `Command` is an operation that has every field its type needs, and nothing else;
`Operation.command?` reads one off an operation or says which fields are missing.
-/

namespace Terraforming

/-- The fields that some type of operation needs. -/
inductive OperationField where
  | player
  | resource
  | cardResource
  | instanceId
  | card
  | location
  | cityKind
  | specialTile
  | effect
  | name
deriving DecidableEq, Repr

namespace OperationField

def word : OperationField → String
  | player => "player_id"
  | resource => "resource"
  | cardResource => "card_resource"
  | instanceId => "instance_id"
  | card => "card"
  | location => "location"
  | cityKind => "city_kind"
  | specialTile => "special_tile"
  | effect => "effect"
  | name => "name"

end OperationField

/-- The fields that an operation of a type cannot do without. -/
def OperationType.required : OperationType → List OperationField
  | .changeResources | .changeProduction => [.player, .resource]
  | .changeCardResource => [.player, .instanceId, .cardResource]
  | .drawCards | .discardCards => [.player]
  | .putCardIntoPlay => [.player, .card, .instanceId]
  | .placeCityTile => [.player, .location, .cityKind]
  | .placeGreenery => [.player, .location]
  | .placeSpecialTile => [.player, .location, .specialTile]
  | .placeOcean => [.location]
  | .raiseTerraformRating => [.player]
  | .addEffect => [.player, .effect]
  | .consumeNextCardEffects => [.player]
  | .markCardActionUsed => [.player, .instanceId]
  | .purchaseCards | .produce => [.player]
  | .claimMilestone | .fundAward => [.player, .name]
  | .raiseTemperature | .raiseOxygen | .resetCardActions | .advanceGeneration => []

/-- One change.  `count` is a signed difference where something is changed, and an amount
otherwise. -/
structure Operation where
  type : OperationType
  player : Option PlayerId := none
  resource : Option Resource := none
  cardResource : Option CardResource := none
  count : Int := 0
  instanceId : Option Int := none
  card : Option Card := none
  cards : List Card := []
  location : Option Location := none
  cityKind : Option CityKind := none
  specialTile : Option SpecialTile := none
  effect : Option Effect := none
  nextCardOnly : Bool := false
  name : Option String := none
deriving DecidableEq

namespace Operation

/-- The operation with every card in normal form. -/
def normal (o : Operation) : Operation :=
  { o with card := o.card.map Card.normal, cards := o.cards.map Card.normal }

/-! ## Naming operations -/

def changeResources (p : PlayerId) (r : Option Resource) (delta : Int) : Operation :=
  { type := .changeResources, player := p, resource := r, count := delta }

def changeProduction (p : PlayerId) (r : Option Resource) (delta : Int) : Operation :=
  { type := .changeProduction, player := p, resource := r, count := delta }

def changeCardResource (p : PlayerId) (instanceId : Int) (kind : Option CardResource)
    (delta : Int) : Operation :=
  { type := .changeCardResource, player := p, instanceId, cardResource := kind, count := delta }

def drawCards (p : PlayerId) (count : Int) : Operation := { type := .drawCards, player := p, count }

def discardCards (p : PlayerId) (cards : List Card) : Operation :=
  { type := .discardCards, player := p, cards }

def putCardIntoPlay (p : PlayerId) (card : Card) (instanceId : Int) : Operation :=
  { type := .putCardIntoPlay, player := p, card, instanceId }

def placeCityTile (p : PlayerId) (location : Location) (kind : CityKind) : Operation :=
  { type := .placeCityTile, player := p, location, cityKind := kind }

def placeGreenery (p : PlayerId) (location : Location) : Operation :=
  { type := .placeGreenery, player := p, location }

def placeSpecialTile (p : PlayerId) (location : Location) (tile : SpecialTile) : Operation :=
  { type := .placeSpecialTile, player := p, location, specialTile := tile }

def placeOcean (location : Location) : Operation := { type := .placeOcean, location }

def raiseTemperature : Operation := { type := .raiseTemperature }

def raiseOxygen : Operation := { type := .raiseOxygen }

def raiseTerraformRating (p : PlayerId) (count : Int := 1) : Operation :=
  { type := .raiseTerraformRating, player := p, count }

def addEffect (p : PlayerId) (source : Int) (effect : Effect) : Operation :=
  { type := .addEffect, player := p, instanceId := source, effect }

def addNextCardEffect (p : PlayerId) (effect : Effect) : Operation :=
  { type := .addEffect, player := p, effect, nextCardOnly := true }

def consumeNextCardEffects (p : PlayerId) : Operation :=
  { type := .consumeNextCardEffects, player := p }

def markCardActionUsed (p : PlayerId) (instanceId : Int) : Operation :=
  { type := .markCardActionUsed, player := p, instanceId }

def resetCardActions : Operation := { type := .resetCardActions }

def purchaseCards (p : PlayerId) (cards : List Card) : Operation :=
  { type := .purchaseCards, player := p, cards }

def produce (p : PlayerId) : Operation := { type := .produce, player := p }

def advanceGeneration : Operation := { type := .advanceGeneration }

def claimMilestone (p : PlayerId) (name : String) : Operation :=
  { type := .claimMilestone, player := p, name }

def fundAward (p : PlayerId) (name : String) : Operation :=
  { type := .fundAward, player := p, name }

end Operation

/-- A complete operation. -/
inductive Command where
  | changeResources (p : PlayerId) (r : Resource) (delta : Int)
  | changeProduction (p : PlayerId) (r : Resource) (delta : Int)
  | changeCardResource (p : PlayerId) (instanceId : Int) (kind : CardResource) (delta : Int)
  | drawCards (p : PlayerId) (count : Int)
  | discardCards (p : PlayerId) (cards : List Card)
  | putCardIntoPlay (p : PlayerId) (card : Card) (instanceId : Int)
  | placeTile (location : Location) (tile : Tile)
  | raiseTemperature
  | raiseOxygen
  | raiseTerraformRating (p : PlayerId) (count : Int)
  | addEffect (p : PlayerId) (source : Option Int) (effect : Effect)
  | addNextCardEffect (p : PlayerId) (effect : Effect)
  | consumeNextCardEffects (p : PlayerId)
  | markCardActionUsed (p : PlayerId) (instanceId : Int)
  | resetCardActions
  | purchaseCards (p : PlayerId) (cards : List Card)
  | produce (p : PlayerId)
  | advanceGeneration
  | claimMilestone (p : PlayerId) (name : String)
  | fundAward (p : PlayerId) (name : String)
deriving DecidableEq

namespace Operation

def has (o : Operation) : OperationField → Bool
  | .player => o.player.isSome
  | .resource => o.resource.isSome
  | .cardResource => o.cardResource.isSome
  | .instanceId => o.instanceId.isSome
  | .card => o.card.isSome
  | .location => o.location.isSome
  | .cityKind => o.cityKind.isSome
  | .specialTile => o.specialTile.isSome
  | .effect => o.effect.isSome
  | .name => o.name.isSome

/-- The needed fields that were not given. -/
def missing (o : Operation) : List OperationField := o.type.required.filter fun f => !o.has f

/-- The command of an operation, if it has all the fields that its type needs. -/
def complete? (o : Operation) : Option Command :=
  match o.type with
  | .changeResources => do return .changeResources (← o.player) (← o.resource) o.count
  | .changeProduction => do return .changeProduction (← o.player) (← o.resource) o.count
  | .changeCardResource => do
    return .changeCardResource (← o.player) (← o.instanceId) (← o.cardResource) o.count
  | .drawCards => do return .drawCards (← o.player) o.count
  | .discardCards => do return .discardCards (← o.player) o.cards
  | .putCardIntoPlay => do return .putCardIntoPlay (← o.player) (← o.card) (← o.instanceId)
  | .placeCityTile => do
    return .placeTile (← o.location) (.city (← o.cityKind) (← o.player))
  | .placeGreenery => do return .placeTile (← o.location) (.greenery (← o.player))
  | .placeSpecialTile => do
    return .placeTile (← o.location) (.special (← o.specialTile) (← o.player))
  | .placeOcean => do return .placeTile (← o.location) .ocean
  | .raiseTemperature => some .raiseTemperature
  | .raiseOxygen => some .raiseOxygen
  | .raiseTerraformRating => do return .raiseTerraformRating (← o.player) o.count
  | .addEffect => do
    let p ← o.player
    let e ← o.effect
    return if o.nextCardOnly then .addNextCardEffect p e else .addEffect p o.instanceId e
  | .consumeNextCardEffects => do return .consumeNextCardEffects (← o.player)
  | .markCardActionUsed => do return .markCardActionUsed (← o.player) (← o.instanceId)
  | .resetCardActions => some .resetCardActions
  | .purchaseCards => do return .purchaseCards (← o.player) o.cards
  | .produce => do return .produce (← o.player)
  | .advanceGeneration => some .advanceGeneration
  | .claimMilestone => do return .claimMilestone (← o.player) (← o.name)
  | .fundAward => do return .fundAward (← o.player) (← o.name)

/-- The command of an operation, or which fields it lacks. -/
def command? (o : Operation) : Except Violation Command :=
  match o.complete? with
  | some c => .ok c
  | none => .error (.missingFields o.type (o.missing.map OperationField.word))

end Operation

end Terraforming
