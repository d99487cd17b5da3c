import Terraforming.Card.Basic

/-!
# Designing cards

How the cards of the built-in decks are written down: what all cards have in a row, and then what
this one has besides.  The cost class follows from the tags, and events get the event tag.
-/

namespace Terraforming.Design

/-- What a card has besides its name, kind, tags and price. -/
structure Features where
  requirements : List Requirement := []
  points : Option Points := none
  production : List (Resource × Int) := []
  anyProduction : List (Resource × Int) := []
  impacts : List Impact := []
  actions : List Action := []
  effects : List Effect := []

/-- The cost class that goes with some tags. -/
def costFor (tags : List CardTag) (amount : Nat) : Cost :=
  if CardTag.building ∈ tags ∧ CardTag.space ∈ tags then .spaceOrBuilding amount
  else if CardTag.building ∈ tags then .building amount
  else if CardTag.space ∈ tags then .space amount
  else .megacredits amount

def text (kind : CardKind) (name : String) (tags : List CardTag) (price : Nat) (f : Features) :
    CardText where
  name := name
  kind := kind
  tags := if kind = .event then tags ++ [.event] else tags
  cost := costFor tags price
  requirements := f.requirements
  points := f.points
  ownProduction := .ofList f.production
  anyProduction := .ofList f.anyProduction
  impacts := f.impacts
  actions := f.actions
  effects := f.effects

/-- A card of a built-in deck. -/
def card (kind : CardKind) (name : String) (tags : List CardTag) (price : Nat)
    (f : Features := {}) (sound : (text kind name tags price f).flaw? = none := by decide) : Card :=
  ⟨text kind name tags price f, sound⟩

end Terraforming.Design
