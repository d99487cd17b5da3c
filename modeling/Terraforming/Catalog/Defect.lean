import Terraforming.Card.Basic
import Terraforming.Fault
import Terraforming.Text.Quoted

/-!
# Defects of cards

What the rules of the design leave open but is wrong all the same: a cost class that does not agree
with the tags, parameters that an impact needs and does not have, resources of several kinds on one
card.
-/

namespace Terraforming

inductive Defect where
  | emptyName
  | costClass (actual expected : CostClass)
  | severalKinds (kinds : List CardResource)
  | impactWithoutResource (type : ImpactType)
  | impactWithoutCardResource (type : ImpactType)
  | impactWithoutTag (type : ImpactType)
  | impactDivisor (type : ImpactType) (per : Int)
  | impactWithoutTile (type : ImpactType)
  | tooFewOptions
  | actionWithoutCost (type : ActionType)
  | spendingWithoutResource
  | revealWithoutTag
  | actionWithoutImpacts (type : ActionType)
  | effectWithoutTriggers (type : EffectType)
  | discountWithoutTag
  | requirementWithoutTag
  | requirementWithoutResource
  | pointsDivisor
  | pointsWithoutTag
deriving DecidableEq, Repr

namespace Defect

def message : Defect → String
  | emptyName => "empty name"
  | costClass actual expected =>
    "cost class " ++ actual.word ++ " does not match tags (expected " ++ expected.word ++ ")"
  | severalKinds kinds =>
    "holds more than one card resource kind: " ++ Text.quotedList (kinds.map word)
  | impactWithoutResource t => t.word ++ " has no resource"
  | impactWithoutCardResource t => t.word ++ " has no card resource"
  | impactWithoutTag t => t.word ++ " has no tag"
  | impactDivisor t per => t.word ++ " has non-positive divisor " ++ toString per
  | impactWithoutTile t => t.word ++ " has no tile"
  | tooFewOptions => "one_of needs at least two options"
  | actionWithoutCost t => "action " ++ t.word ++ " has no cost"
  | spendingWithoutResource => "spend-production action has no resource"
  | revealWithoutTag => "reveal action has no tag"
  | actionWithoutImpacts t => "action " ++ t.word ++ " has no impacts"
  | effectWithoutTriggers t => "effect " ++ t.word ++ " has no triggers"
  | discountWithoutTag => "tag discount has no tag"
  | requirementWithoutTag => "tag requirement has no tag"
  | requirementWithoutResource => "production requirement has no resource"
  | pointsDivisor => "victory point divisor must be positive"
  | pointsWithoutTag => "per-tag victory points have no tag"

end Defect

/-! ## What impacts need -/

namespace ImpactType

def needsResource : ImpactType → Bool
  | gainResource | gainResourcePerCity | gainResourcePerCityOnMars | gainProduction
  | gainProductionPerCity | gainProductionPerCityOnMars | gainProductionPerOwnTag
  | gainProductionPerOpponentTag | gainProductionPerAnyTag | reduceAnyProduction => true
  | _ => false

def needsCardResource : ImpactType → Bool
  | addResourceToSameCard | addResourceToAnotherCard | addResourceToAnyCard
  | removeResourceFromAnyCard => true
  | _ => false

def needsTag : ImpactType → Bool
  | gainTerraformRatingPerOwnTag | gainProductionPerOwnTag | gainProductionPerOpponentTag
  | gainProductionPerAnyTag | copyProductionOfCard => true
  | _ => false

end ImpactType

/-- A defect where a condition holds. -/
def Defect.when (condition : Bool) (d : Defect) : List Defect := if condition then [d] else []

open Defect (when)

def Impact.defects (i : Impact) : List Defect :=
  when (i.type.needsResource && i.resource.isNone) (.impactWithoutResource i.type) ++
  when (i.type.needsCardResource && i.cardResource.isNone) (.impactWithoutCardResource i.type) ++
  when (i.type.needsTag && i.tag.isNone) (.impactWithoutTag i.type) ++
  when (i.per ≤ 0) (.impactDivisor i.type i.per) ++
  when (i.type = .placeSpecialTile && i.specialTile.isNone) (.impactWithoutTile i.type) ++
  when (i.type = .oneOf && i.options.length < 2) .tooFewOptions

/-! ## What the other parts need -/

def Action.defects (a : Action) : List Defect :=
  when ((a.type = .spendResource || a.type = .revealCardForTag) && a.cost.isNone)
    (.actionWithoutCost a.type) ++
  when (a.type = .spendProduction && a.resource.isNone) .spendingWithoutResource ++
  when (a.type = .revealCardForTag && a.tag.isNone) .revealWithoutTag ++
  when a.impacts.isEmpty (.actionWithoutImpacts a.type)

def Effect.defects (e : Effect) : List Defect :=
  when (e.type.answersImpact && e.triggers.isEmpty) (.effectWithoutTriggers e.type) ++
  when (e.type = .cardDiscountForTag && e.tag.isNone) .discountWithoutTag

def Requirement.defects (r : Requirement) : List Defect :=
  when (r.type = .minTags && r.tag.isNone) .requirementWithoutTag ++
  when (r.type = .minProduction && r.resource.isNone) .requirementWithoutResource

def Points.defects (p : Points) : List Defect :=
  when (p.per ≤ 0) .pointsDivisor ++
  when (p.type = .perTag && p.tag.isNone) .pointsWithoutTag

/-! ## Cards -/

namespace CardText

/-- The cost class that goes with the tags. -/
def expectedCostClass (c : CardText) : CostClass :=
  if c.hasTag .building && c.hasTag .space then .spaceOrBuilding
  else if c.hasTag .building then .building
  else if c.hasTag .space then .space
  else .megacredits

/-- The kinds of resource that are put on the card, spent from it or counted on it, as printed. -/
def kindsOnCard (c : CardText) : List (Option CardResource) :=
  (c.allImpacts.filter fun i => i.type = .addResourceToSameCard).map (·.cardResource) ++
    (c.actions.filter fun a => a.type = .spendSameCardResource).map (·.cardResource) ++
    ((c.points.bind (·.cardResource)).map some).toList

/-- A defect if there are several kinds of resource on the card.  They cannot be listed when one of
them was left unset. -/
def kindDefects (c : CardText) : Except Fault (List Defect) :=
  match c.kindsOnCard with
  | [] => .ok []
  | k :: ks =>
    if ks.all (· = k) then .ok []
    else match (k :: ks).mapM id with
      | none => .error .unset
      | some kinds => .ok [.severalKinds (KeySet.ofList kinds).keys]

/-- Everything that is wrong with the card. -/
def defects (c : CardText) : Except Fault (List Defect) := do
  let kinds ← c.kindDefects
  return when c.name.isEmpty .emptyName ++
    when (c.cost.currency ≠ c.expectedCostClass) (.costClass c.cost.currency c.expectedCostClass) ++
    kinds ++ c.allImpacts.flatMap Impact.defects ++ c.actions.flatMap Action.defects ++
    c.effects.flatMap Effect.defects ++ c.requirements.flatMap Requirement.defects ++
    c.points.toList.flatMap Points.defects

end CardText

end Terraforming
