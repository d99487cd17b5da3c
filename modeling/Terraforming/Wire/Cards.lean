import Terraforming.Card.Basic
import Terraforming.Wire.Checked
import Terraforming.Wire.Limits
import Terraforming.Wire.Style

/-!
# Cards on the wire

How cards, and everything printed on them, are read from JSON and written to it.
-/

namespace Terraforming.Wire

open Reader

/-! ## Costs -/

def checkCost (c : CostClass × Int) : Except String Cost :=
  if c.2 < 0 then .error ("Negative cost: " ++ toString c.2) else .ok ⟨c.1, c.2.toNat⟩

def readCost : Reader Cost :=
  record .recordType fun ms =>
    (Prod.mk <$> field ms "currency" term <*> field ms "amount" int).check checkCost

def writeCost (c : Cost) : Json :=
  .object [("currency", .term c.currency), ("amount", .nat c.amount)]

/-! ## Impacts -/

/-- Read an impact whose options are nested less than `depth` deep. -/
def readImpactWithin : (depth : Nat) → Reader Impact
  | 0 => fun _ => .fail .recursionLoop
  | n + 1 => record .recordType fun ms =>
    Impact.mk <$> field ms "impact_type" term
      <*> fieldOr ms "count" 0 int
      <*> fieldOption ms "resource" term
      <*> fieldOption ms "card_resource" term
      <*> fieldOption ms "tag" term
      <*> fieldOr ms "per" 1 int
      <*> fieldOption ms "city_kind" term
      <*> fieldOption ms "location_kind" term
      <*> fieldOption ms "special_tile" term
      <*> fieldOr ms "options" [] (tuple (readImpactWithin n))

def readImpact (limits : Json.Limits := .files) : Reader Impact := readImpactWithin limits.levels

def readImpacts (limits : Json.Limits := .files) : Reader (List Impact) := tuple (readImpact limits)

mutual

def writeImpact (s : Style) : Impact → Json
  | ⟨type, count, resource, cardResource, tag, per, city, ground, tile, options⟩ =>
    .object ([("impact_type", .term type)] ++ s.int "count" 0 count ++
      s.option "resource" .term resource ++ s.option "card_resource" .term cardResource ++
      s.option "tag" .term tag ++ s.int "per" 1 per ++ s.option "city_kind" .term city ++
      s.option "location_kind" .term ground ++ s.option "special_tile" .term tile ++
      s.list "options" (writeImpacts s options))

def writeImpacts (s : Style) : List Impact → List Json
  | [] => []
  | i :: is => writeImpact s i :: writeImpacts s is

end

/-! ## Actions, effects, requirements and points -/

def readAction (limits : Json.Limits := .files) : Reader Action :=
  record .recordType fun ms =>
    Action.mk <$> field ms "action_type" term
      <*> fieldOr ms "impacts" [] (readImpacts limits)
      <*> fieldOption ms "cost" readCost
      <*> fieldOption ms "resource" term
      <*> fieldOption ms "card_resource" term
      <*> fieldOr ms "count" 0 int
      <*> fieldOption ms "tag" term

def writeAction (s : Style) (a : Action) : Json :=
  .object ([("action_type", .term a.type)] ++ s.list "impacts" (writeImpacts s a.impacts) ++
    s.option "cost" writeCost a.cost ++ s.option "resource" .term a.resource ++
    s.option "card_resource" .term a.cardResource ++ s.int "count" 0 a.count ++
    s.option "tag" .term a.tag)

def readEffect (limits : Json.Limits := .files) : Reader Effect :=
  record .recordType fun ms =>
    Effect.mk <$> field ms "effect_type" term
      <*> fieldOr ms "count" 0 int
      <*> fieldOption ms "tag" term
      <*> fieldOption ms "resource" term
      <*> fieldOption ms "card_resource" term
      <*> fieldOr ms "card_resources" [] (tuple term)
      <*> fieldOr ms "triggers" [] (readImpacts limits)

def writeEffect (s : Style) (e : Effect) : Json :=
  .object ([("effect_type", .term e.type)] ++ s.int "count" 0 e.count ++
    s.option "tag" .term e.tag ++ s.option "resource" .term e.resource ++
    s.option "card_resource" .term e.cardResource ++
    s.list "card_resources" (e.cardResources.map .term) ++
    s.list "triggers" (writeImpacts s e.triggers))

def readRequirement : Reader Requirement :=
  record .recordType fun ms =>
    Requirement.mk <$> field ms "requirement_type" term
      <*> field ms "value" int
      <*> fieldOption ms "tag" term
      <*> fieldOption ms "resource" term

def writeRequirement (s : Style) (r : Requirement) : Json :=
  .object ([("requirement_type", .term r.type), ("value", .int r.value)] ++
    s.option "tag" .term r.tag ++ s.option "resource" .term r.resource)

def readPoints : Reader Points :=
  record .recordType fun ms =>
    Points.mk <$> field ms "vp_type" term
      <*> fieldOr ms "points" 1 int
      <*> fieldOr ms "per" 1 int
      <*> fieldOption ms "tag" term
      <*> fieldOption ms "card_resource" term

def writePoints (s : Style) (p : Points) : Json :=
  .object ([("vp_type", .term p.type)] ++ s.int "points" 1 p.points ++ s.int "per" 1 p.per ++
    s.option "tag" .term p.tag ++ s.option "card_resource" .term p.cardResource)

/-! ## Cards -/

def readAmounts : Reader (List (Resource × Int)) := dictionary term int

def checkCard (t : CardText) : Except String Card :=
  match Card.ofText t with
  | .ok c => .ok c
  | .error f => .error (f.message t.name)

def readCard (limits : Json.Limits := .files) : Reader Card :=
  record .recordType fun ms =>
    (CardText.mk <$> field ms "name" string
      <*> field ms "kind" term
      <*> field ms "tags" (tuple term)
      <*> field ms "cost" readCost
      <*> fieldOr ms "requirements" [] (tuple readRequirement)
      <*> fieldOption ms "points" readPoints
      <*> fieldOr ms "own_production" ∅ (fun j => Ledger.ofList <$> readAmounts j)
      <*> fieldOr ms "any_production" ∅ (fun j => Table.ofList <$> readAmounts j)
      <*> fieldOr ms "immediate_impacts" [] (readImpacts limits)
      <*> fieldOr ms "actions" [] (tuple (readAction limits))
      <*> fieldOr ms "effects" [] (tuple (readEffect limits))).check checkCard

def readCards (limits : Json.Limits := .files) : Reader (List Card) := list (readCard limits)

/-- A card with everything printed on it. -/
def writeCardText (s : Style) (c : Card) : Json :=
  .object ([("name", .string c.name), ("kind", .term c.kind), ("tags", .terms c.tags),
      ("cost", writeCost c.cost)] ++
    s.list "requirements" (c.requirements.map (writeRequirement s)) ++
    s.option "points" (writePoints s) c.points ++
    s.field "own_production" c.ownProduction.entries.isEmpty (.amounts c.ownProduction.entries) ++
    s.field "any_production" c.anyProduction.isEmpty (.amounts c.anyProduction.entries) ++
    s.list "immediate_impacts" (writeImpacts s c.impacts) ++
    s.list "actions" (c.actions.map (writeAction s)) ++
    s.list "effects" (c.effects.map (writeEffect s)))

/-- A card where it is mentioned. -/
def writeCard (s : Style) (c : Card) : Json :=
  match s with
  | .full => writeCardText .full c
  | .brief => .string c.name

end Terraforming.Wire
