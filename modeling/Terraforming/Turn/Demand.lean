import Terraforming.Game.Execute
import Terraforming.Turn.Refusal

/-!
# What an impact demands

Before an impact can be carried out, the state of the game says what it comes to: nothing, a
refusal, some operations, or a decision whose legal answers are listed and each of which leads to
operations.  `Impact.demand` works that out; it changes nothing.
-/

namespace Terraforming

/-- What an impact comes to. -/
inductive Demand (i : Impact) where
  /-- There is nothing to do. -/
  | skip
  | refuse (r : Refusal)
  | perform (ops : List Operation)
  /-- A tile wants a location. -/
  | place (options : List Location) (ops : Location → List Operation)
  | aim (options : List PlayerId) (ops : PlayerId → List Operation)
  | pick (options : List (PlayerId × Int)) (ops : PlayerId × Int → Except Refusal (List Operation))
  /-- One of the options of the impact takes its place. -/
  | choose

namespace Impact

/-- A value that is needed to say why something is refused. -/
def need {α : Type} : Option α → Except Fault α
  | some a => .ok a
  | none => .error .unset

/-! ## Tiles -/

/-- A decision on where a tile goes, unless it can go nowhere. -/
def placeOn (i : Impact) (g : Game) (actor : PlayerId) (rs : List Restriction)
    (ops : Location → List Operation) : Demand i :=
  match g.board.legalLocations actor rs with
  | [] => .refuse (.noLegalLocation i.type)
  | ls => .place ls ops

/-- One oxygen step and the rating that goes with it. -/
def oxygenStep (actor : PlayerId) : List Operation := [.raiseOxygen, .raiseTerraformRating actor]

def demandOcean (i : Impact) (g : Game) (actor : PlayerId) : Demand i :=
  if g.board.oceansMaxed then .skip
  else i.placeOn g actor (Restriction.forOcean i.locationKind) fun l =>
    [.placeOcean l, .raiseTerraformRating actor]

def demandGreenery (i : Impact) (g : Game) (actor : PlayerId) : Demand i :=
  i.placeOn g actor (Restriction.forGreenery i.locationKind) fun l =>
    .placeGreenery actor l :: if g.board.oxygenMaxed then [] else oxygenStep actor

def demandCity (i : Impact) (g : Game) (actor : PlayerId) : Demand i :=
  let kind := i.cityKind.getD .regular
  i.placeOn g actor (Restriction.forCity kind) fun l => [.placeCityTile actor l kind]

def demandSpecialTile (i : Impact) (g : Game) (actor : PlayerId) : Except Fault (Demand i) :=
  match i.specialTile with
  | none => .error .unlisted
  | some tile =>
    .ok (i.placeOn g actor (Restriction.forSpecialTile tile) fun l =>
      [.placeSpecialTile actor l tile])

/-! ## Card resources -/

def demandSameCard (i : Impact) (actor : PlayerId) (source : Option Int) : Demand i :=
  match source with
  | none => .refuse .noCardForResources
  | some s => .perform [.changeCardResource actor s i.cardResource i.count]

/-- The cards of `q` that can hold what the impact adds, apart from `except`. -/
def holders (i : Impact) (q : Player) (except : Option Int) : List PlayedCard :=
  q.played.filter fun c =>
    decide (c.card.supportedResource? = i.cardResource) && decide (some c.instanceId ≠ except)

def demandOwnCard (i : Impact) (g : Game) (actor : PlayerId) (except : Option Int) :
    Except Fault (Demand i) :=
  (g.player actor).map fun q =>
    match i.holders q except with
    | [] => .skip
    | cs => .pick (cs.map fun c => (actor, c.instanceId)) fun target =>
        .ok [.changeCardResource actor target.2 i.cardResource i.count]

/-- The cards of a player from which `actor` can remove resources. -/
def removable (i : Impact) (actor : PlayerId) (e : PlayerId × Player) : List (PlayerId × Int) :=
  (e.2.played.filter fun c =>
    decide (0 < e.2.held c.instanceId i.cardResource) &&
      (e.1 = actor || i.cardResource ∉ e.2.protectedKinds c.instanceId)).map
    fun c => (e.1, c.instanceId)

/-- How many resources lie on a card of some player. -/
def heldOn (g : Game) (target : PlayerId × Int) (kind : Option CardResource) : Int :=
  ((g.player? target.1).map fun q => q.held target.2 kind).getD 0

def demandRemoval (i : Impact) (g : Game) (actor : PlayerId) : Except Fault (Demand i) :=
  match g.players.entries.flatMap (i.removable actor) with
  | [] => do return .refuse (.nothingRemovable (← need i.cardResource))
  | cs => .ok (.pick cs fun target =>
      .ok [.changeCardResource target.1 target.2 i.cardResource
        (-min i.count (heldOn g target i.cardResource))])

/-! ## Resources -/

def demandCards (i : Impact) (g : Game) (actor : PlayerId) : Demand i :=
  let count := min i.count (g.deck.length + g.discard.length)
  if count = 0 then .skip else .perform [.drawCards actor count]

def demandGain (i : Impact) (g : Game) (actor : PlayerId) : Except Fault (Demand i) := do
  if (← g.player actor).balance i.resource + i.count < 0 then
    return .refuse (.notEnough (← need i.resource))
  if i.count = 0 then return .skip
  return .perform [.changeResources actor i.resource i.count]

def demandGainPerCity (i : Impact) (g : Game) (actor : PlayerId) (onMarsOnly : Bool) : Demand i :=
  let gained := i.count * g.board.cityCount onMarsOnly
  if gained = 0 then .skip else .perform [.changeResources actor i.resource gained]

def demandOwnPlants (i : Impact) (g : Game) (actor : PlayerId) : Except Fault (Demand i) := do
  if (← g.player actor).balance (some .plants) < i.count then
    return .refuse (.notEnoughPlants i.count)
  return .perform [.changeResources actor (some .plants) (-i.count)]

/-- The plants of some player. -/
def plantsOf (g : Game) (p : PlayerId) : Int :=
  ((g.player? p).map fun q => q.balance (some .plants)).getD 0

def demandAnyPlants (i : Impact) (g : Game) : Demand i :=
  match g.playerIds.filter fun p => 0 < plantsOf g p with
  | [] => .skip
  | ps => .aim ps fun p => [.changeResources p (some .plants) (-min i.count (plantsOf g p))]

/-! ## Production -/

/-- What a change of the actor's own production comes to. -/
def demandProduction (i : Impact) (g : Game) (actor : PlayerId) (delta : Int) :
    Except Fault (Demand i) := do
  if delta = 0 then return .skip
  if delta < 0 then
    if !(← g.player actor).canReduceProduction i.resource (-delta) then
      return .refuse (.productionTooLow (← need i.resource) (-delta))
  return .perform [.changeProduction actor i.resource delta]

/-- All tags of some players, in whole groups. -/
def tagGroups (i : Impact) (qs : List Player) : Except Fault Int := do
  Player.groups (total (← qs.mapM fun q => q.tagCount i.tag)) i.per

def demandReduction (i : Impact) (g : Game) : Demand i :=
  let able := g.players.entries.filter fun e => e.2.canReduceProduction i.resource i.count
  match able.map (·.1) with
  | [] => .skip
  | ps => .aim ps fun p => [.changeProduction p i.resource (-i.count)]

/-- The changes of production that copying a card brings, unless one of them is too much. -/
def copyOps (q : Player) (actor : PlayerId) (c : Card) : Except Refusal (List Operation) :=
  match Resource.all.find? fun r =>
      c.ownChange r < 0 && !q.canReduceProduction (some r) (-c.ownChange r) with
  | some r => .error (.cannotCopy c.name r)
  | none => .ok ((Resource.all.filter fun r => c.ownChange r ≠ 0).map fun r =>
      .changeProduction actor (some r) (c.ownChange r))

/-- The cards of `q` whose production can be copied by the card `source`. -/
def copyable (i : Impact) (q : Player) (source : Option Int) : List PlayedCard :=
  q.played.filter fun c =>
    some c.instanceId ≠ source && i.tag.any c.card.hasTag &&
      c.card.ownProduction.values.any (· ≠ 0)

def demandCopy (i : Impact) (g : Game) (actor : PlayerId) (source : Option Int) :
    Except Fault (Demand i) :=
  (g.player actor).map fun q =>
    match i.copyable q source with
    | [] => .skip
    | cs => .pick (cs.map fun c => (actor, c.instanceId)) fun target =>
        match q.played? target.2 with
        | some c => copyOps q actor c.card
        | none => .ok []

/-! ## Every impact -/

def demandRatingPerTag (i : Impact) (g : Game) (actor : PlayerId) : Except Fault (Demand i) := do
  let gained := i.count * (← i.tagGroups [← g.player actor])
  if gained = 0 then return .skip
  return .perform [.raiseTerraformRating actor gained]

/-- What an impact comes to in a game, for the player who caused it with the card `source`. -/
def demand (i : Impact) (g : Game) (actor : PlayerId) (source : Option Int) :
    Except Fault (Demand i) :=
  match i.type with
  | .raiseTemperature =>
    .ok (if g.board.temperatureMaxed then .skip
      else .perform [.raiseTemperature, .raiseTerraformRating actor])
  | .raiseOxygen =>
    .ok (if g.board.oxygenMaxed then .skip else .perform (oxygenStep actor))
  | .raiseTerraformRating => .ok (.perform [.raiseTerraformRating actor i.count])
  | .gainTerraformRatingPerOwnTag => i.demandRatingPerTag g actor
  | .placeOcean => .ok (i.demandOcean g actor)
  | .placeGreenery => .ok (i.demandGreenery g actor)
  | .placeCity => .ok (i.demandCity g actor)
  | .placeSpecialTile => i.demandSpecialTile g actor
  | .drawCard => .ok (i.demandCards g actor)
  | .addResourceToSameCard => .ok (i.demandSameCard actor source)
  | .addResourceToAnotherCard => i.demandOwnCard g actor source
  | .addResourceToAnyCard => i.demandOwnCard g actor none
  | .removeResourceFromAnyCard => i.demandRemoval g actor
  | .gainResource => i.demandGain g actor
  | .gainResourcePerCity => .ok (i.demandGainPerCity g actor false)
  | .gainResourcePerCityOnMars => .ok (i.demandGainPerCity g actor true)
  | .destroyOwnPlants => i.demandOwnPlants g actor
  | .destroyAnyPlants => .ok (i.demandAnyPlants g)
  | .gainProduction => i.demandProduction g actor i.count
  | .gainProductionPerCity => i.demandProduction g actor (i.count * g.board.cityCount)
  | .gainProductionPerCityOnMars => i.demandProduction g actor (i.count * g.board.cityCount true)
  | .gainProductionPerOwnTag => do
    i.demandProduction g actor (i.count * (← i.tagGroups [← g.player actor]))
  | .gainProductionPerOpponentTag => do
    i.demandProduction g actor (i.count * (← i.tagGroups (g.opponentsOf actor)))
  | .gainProductionPerAnyTag => do
    i.demandProduction g actor (i.count * (← i.tagGroups g.players.values))
  | .reduceAnyProduction => .ok (i.demandReduction g)
  | .copyProductionOfCard => i.demandCopy g actor source
  | .discountNextCard =>
    .ok (.perform [.addNextCardEffect actor (.anyCardDiscount i.count)])
  | .oneOf => .ok .choose

end Impact

/-! ## Meeting a demand -/

/-- How far an impact gets with the choices `cs` that are left. -/
inductive Met (i : Impact) (cs : List Choice) where
  /-- A decision is due, and no choice is left. -/
  | waiting (options : Options)
  | skipped
  | refused (r : Refusal)
  | performed (ops : List Operation)
  /-- A choice was used; after the operations come the placement bonuses. -/
  | answered (ops : List Operation) (bonuses : List Impact) (rest : List Choice)
      (used : rest.length < cs.length)
  /-- A choice was used, and an option takes the place of the impact. -/
  | replaced (j : Impact) (mem : j ∈ i.options) (rest : List Choice)

/-- Meet a demand with the next choice, if it needs one. -/
def Demand.meet {i : Impact} (b : Board) : Demand i → (cs : List Choice) → Met i cs
  | .skip, _ => .skipped
  | .refuse r, _ => .refused r
  | .perform ops, _ => .performed ops
  | .place ls _, [] => .waiting (.locations ls)
  | .aim ps _, [] => .waiting (.players ps)
  | .pick ts _, [] => .waiting (.cards ts)
  | .choose, [] => .waiting (.indexes i.options.length)
  | .place ls ops, c :: cs =>
    match c.location.filter (· ∈ ls) with
    | some l => .answered (ops l) (b.placementBonuses l) cs (Nat.lt_succ_self _)
    | none => .refused (.illegalAnswer c i.type)
  | .aim ps ops, c :: cs =>
    match c.player.filter (· ∈ ps) with
    | some p => .answered (ops p) [] cs (Nat.lt_succ_self _)
    | none => .refused (.illegalAnswer c i.type)
  | .pick ts ops, c :: cs =>
    match c.card?.filter (· ∈ ts) with
    | some t =>
      match ops t with
      | .ok ops => .answered ops [] cs (Nat.lt_succ_self _)
      | .error r => .refused r
    | none => .refused (.illegalAnswer c i.type)
  | .choose, c :: cs =>
    match c.option.filter (0 ≤ ·) with
    | none => .refused (.illegalAnswer c i.type)
    | some n =>
      if h : n.toNat < i.options.length then
        .replaced i.options[n.toNat] (List.getElem_mem h) cs
      else .refused (.illegalAnswer c i.type)

/-- Only without a choice is a decision left open. -/
theorem Demand.no_choice_of_waiting {i : Impact} {b : Board} {d : Demand i} {cs : List Choice}
    {o : Options} (h : d.meet b cs = .waiting o) : cs = [] := by
  unfold Demand.meet at h
  repeat' split at h
  all_goals first | rfl | cases h

end Terraforming
