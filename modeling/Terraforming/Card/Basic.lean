import Terraforming.Card.Action
import Terraforming.Card.Effect
import Terraforming.Card.Points
import Terraforming.Card.Requirement
import Terraforming.Data.Ledger

/-!
# Cards

A card is a printed text that keeps the rules of the design: actions exactly on active cards,
no effects on events, the event tag on events, and a city tag only where a city is placed.
`CardText.flaw?` names the first rule that a text breaks, and a `Card` is a text with none.

Two cards are the same (`==`) when everything printed on them is, apart from the order in which
the production changes of the owner are listed.
-/

namespace Terraforming

/-- Everything printed on a card. -/
structure CardText where
  name : String
  kind : CardKind
  tags : List CardTag
  cost : Cost
  requirements : List Requirement := []
  points : Option Points := none
  /-- What playing the card does to the owner's production, in the order printed. -/
  ownProduction : Ledger Resource Int := ∅
  /-- What it takes from the production of some player. -/
  anyProduction : Pool := ∅
  impacts : List Impact := []
  actions : List Action := []
  effects : List Effect := []
deriving DecidableEq

namespace CardText

def isEvent (c : CardText) : Bool := c.kind = .event

def hasTag (c : CardText) (t : CardTag) : Bool := t ∈ c.tags

/-- How often a tag is printed; a tag that is not given is printed nowhere. -/
def countTag (c : CardText) : Option CardTag → Nat
  | none => 0
  | some t => c.tags.count t

/-- Every impact the card can cause, those of actions and options included. -/
def allImpacts (c : CardText) : List Impact :=
  Impact.walkAll c.impacts ++ c.actions.flatMap fun a => Impact.walkAll a.impacts

def placesCity (c : CardText) : Bool := c.allImpacts.any fun i => i.type = .placeCity

/-! ## Rules of the design -/

/-- A rule of the design that a text breaks. -/
inductive Flaw where
  | actionsAgainstKind
  | effectsOnEvent
  | eventTagMissing
  | cityMissing
deriving DecidableEq, Repr

def Flaw.message (name : String) : Flaw → String
  | actionsAgainstKind =>
    "Card '" ++ name ++ "': actions must be present exactly when the card is active"
  | effectsOnEvent => "Event card '" ++ name ++ "' has passive effects"
  | eventTagMissing => "Event card '" ++ name ++ "' lacks the event tag"
  | cityMissing => "City card '" ++ name ++ "' does not place a city"

/-- The first rule that the text breaks. -/
def flaw? (c : CardText) : Option Flaw :=
  if c.actions.isEmpty = decide (c.kind = .active) then some .actionsAgainstKind
  else if c.isEvent && !c.effects.isEmpty then some .effectsOnEvent
  else if c.isEvent && !c.hasTag .event then some .eventTagMissing
  else if c.hasTag .city && !c.placesCity then some .cityMissing
  else none

/-! ## Resources on the card -/

/-- The kind of resource that the card can hold, read off what is printed: the first reference to
resources on this same card, looking at impacts, then actions, effects and points.  The outer
option says whether there is a reference, the inner one whether the reference names a kind. -/
def selfReference? (c : CardText) : Option (Option CardResource) :=
  (c.allImpacts.find? fun i => i.type = .addResourceToSameCard).map (·.cardResource)
    <|> (c.actions.find? fun a => a.type = .spendSameCardResource).map (·.cardResource)
    <|> (c.effects.find? fun e => e.type = .gainCardResourceForOwnImpact
          || e.type = .gainCardResourceForAnyImpact
          || e.type = .cannotRemoveThisCardResource).map (·.cardResource)

def supportedResource? (c : CardText) : Option CardResource :=
  match c.selfReference? with
  | some kind => kind
  | none => c.points.bind (·.cardResource)

end CardText

/-- A text that breaks no rule of the design. -/
structure Card extends CardText where
  sound : toCardText.flaw? = none
deriving DecidableEq

namespace Card

/-- The card of a text, or the rule that the text breaks. -/
def ofText (t : CardText) : Except CardText.Flaw Card :=
  match h : t.flaw? with
  | none => .ok ⟨t, h⟩
  | some f => .error f

/-- What playing the card does to the owner's production of `r`. -/
def ownChange (c : Card) (r : Resource) : Int := c.ownProduction.getD r 0

/-- What the card does to some player's production of `r`. -/
def anyChange (c : Card) (r : Resource) : Int := c.anyProduction.amount r

/-! ## Being the same card -/

/-- The card with the changes to the owner's production listed in the order of `Resource.all`. -/
def normal (c : Card) : Card :=
  { c with
    ownProduction := Ledger.ofList c.ownProduction.table.entries
    sound := c.sound }

instance : BEq Card := ⟨fun a b => a.name == b.name && decide (a.normal = b.normal)⟩

end Card

end Terraforming
