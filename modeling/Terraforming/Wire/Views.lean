import Terraforming.Search.Generation
import Terraforming.Wire.Games

/-!
# Views

A view is what is worth seeing of a player, a board, a game or an attempt, in brief: cards are
names, the six resources stand in a row, and only occupied locations are listed.  A board with a
tile that has no text has no view.
-/

namespace Terraforming.Wire

/-- An amount of each resource, in a row. -/
def viewAmounts (amount : Option Resource → Int) : Json :=
  .array (Resource.all.map fun r => .int (amount (some r)))

def viewCards (cards : List Card) : Json := .strings (cards.map (·.name))

def viewPlayer (p : Player) : Json :=
  .object [
    ("id", .int p.id),
    ("res", viewAmounts p.balance),
    ("prod", viewAmounts p.productionOf),
    ("tr", .int p.rating),
    ("hand", viewCards p.hand),
    ("played", .array (p.played.map fun c => .array [.int c.instanceId, .string c.card.name])),
    ("card_res", .array (p.cardResources.entries.map fun e =>
      .array [.int e.1.instanceId, .term e.1.kind, .int e.2])),
    ("tapped", .array (p.tapped.keys.map .int)),
    ("effects", .array (p.effects.map fun e =>
      .array [.int e.source, .term e.effect.type, .int e.effect.count])),
    ("next", .array (p.nextCardEffects.map (writeEffect .brief))),
    ("next_id", .int p.nextInstance)]

/-- Kinds of resource, once each and in order.  One that was left unset has no word and comes
first. -/
def viewKinds (kinds : List (Option CardResource)) : Json :=
  let unset := if kinds.contains none then [Json.string ""] else []
  .array (unset ++ (KeySet.ofList (kinds.filterMap id)).keys.map .term)

/-- What `p` has from the cards in play. -/
def viewStanding (p : Player) : Json :=
  .object [
    ("steel", .int p.steelValue),
    ("titanium", .int p.titaniumValue),
    ("events", .nat p.eventCount),
    ("active", .array (p.activeCards.map fun c => .int c.instanceId)),
    ("supported", .array (p.played.map fun c => Json.optional .term c.card.supportedResource?)),
    ("protected", .array (p.played.map fun c => viewKinds (p.protectedKinds c.instanceId))),
    ("floors", viewAmounts p.productionFloor)]

/-- What playing a card would ask of `p`. -/
def viewOffer (p : Player) (b : Board) (c : Card) : Except Fault Json := do
  return .object [
    ("discount", .int (p.discount c)),
    ("cost", writeCost (p.effectiveCost c)),
    ("unmet", .strings (← p.unmetRequirements b c)),
    ("meets", .bool (← p.meetsRequirements b c)),
    ("can_play", Json.optional writeCost (← p.canPlay b c))]

/-- A total of points, and what the tiles and each card in play are worth. -/
def viewPoints (p : Player) (b : Board) (total : Int) : Except Fault Json := do
  return .object [
    ("total", .int total),
    ("tiles", .int (p.tilePoints b)),
    ("cards", .array (← p.played.mapM fun c => do return .int (← p.cardPoints b c)))]

/-- What a tile says of itself. -/
def viewTile (t : Tile) : Except Fault Json :=
  match t.text? with
  | some s => .ok (.string s)
  | none => .error .unset

def viewBoard (b : Board) : Except Fault Json := do
  let tiles ← (b.locations.filter fun l => !(b.status l).isEmpty).mapM fun l => do
    return .array [.string l.text, ← viewTile (b.status l)]
  return .object [("oxygen", .int b.oxygen), ("temperature", .int b.temperature),
    ("oceans", .nat b.oceanCount), ("tiles", .array tiles)]

/-- A location, what is next to it, and whether a tile of `p` is. -/
def viewSurroundings (b : Board) (p : PlayerId) (l : Location) : Except Fault Json := do
  return .object [
    ("status", ← viewTile (b.status l)),
    ("is_city", .bool (b.status l).isCity),
    ("neighbors", .array (← (b.neighborStatus l).mapM viewTile)),
    ("oceans", .nat (b.adjacentOceans l)),
    ("cities", .nat (b.adjacentCities l)),
    ("greeneries", .nat (b.adjacentGreeneries l)),
    ("tiles", .nat (b.adjacentTiles l)),
    ("owned", .bool (b.nextToOwnTile p l))]

/-- Pairs in order of their texts. -/
def viewByText (es : List (String × Json)) : Json :=
  .array ((es.mergeSort fun a b => a.1 ≤ b.1).map fun e => .array [.string e.1, e.2])

/-- The tiles of `p`, and how many cities there are. -/
def viewBelongings (b : Board) (p : PlayerId) : Json :=
  .object [
    ("cities", viewByText ((b.citiesOf p).map fun e => (e.1.text, Json.optional .term e.2))),
    ("greeneries", .array ((b.greeneriesOf p).map (writeHex .brief))),
    ("special", viewByText ((b.specialTilesOf p).map fun e =>
      (e.1.text, Json.optional .term e.2))),
    ("count", .nat b.cityCount),
    ("on_mars", .nat (b.cityCount true)),
    ("own", .nat (b.cityCount false (some p))),
    ("own_on_mars", .nat (b.cityCount true (some p)))]

/-- Who took which milestones or awards, in the order taken. -/
def viewTaken (l : Ledger String PlayerId) : Json :=
  .array (l.entries.map fun e => .array [.string e.1, .int e.2])

def viewGame (g : Game) : Except Fault Json := do
  return .object [
    ("generation", .int g.generation),
    ("board", ← viewBoard g.board),
    ("players", .array (g.players.values.map viewPlayer)),
    ("deck", viewCards g.deck),
    ("discard", viewCards g.discard),
    ("reshuffles", .int g.reshuffles),
    ("seed", .int g.seed),
    ("milestones", viewTaken g.claimed),
    ("awards", viewTaken g.funded),
    ("log", .nat g.log.length)]

def viewOperations (ops : List Operation) : List (String × Json) :=
  Style.brief.list "operations" (ops.map (writeOperation .brief))

def viewPending (p : Pending) : Json :=
  .object [
    ("type", .string p.options.typeWord),
    ("impact", writeImpact .brief p.impact),
    ("options", writeOptions p.options)]

/-- The fields of an attempt; those of the decision that is missing, if one is, come last. -/
def viewAttempt (a : Attempt) : List (String × Json) :=
  [("status", .string a.statusWord)] ++
  match a with
  | .unplayable r => [("reason", .string r.message)]
  | .complete ops _ => viewOperations ops
  | .waiting ops rest pending source _ =>
    viewOperations ops ++ [
      ("remaining", .array (rest.map (writeImpact .brief))),
      ("pending", viewPending pending),
      ("source", Json.optional .int source),
      ("answers", .nat pending.options.choices.length)]

/-- A play of a generation, and what it left `p` with. -/
def viewPlay (p : PlayerId) (play : GenerationPlay) : Except Fault Json := do
  let q ← play.game.player p
  return .object [
    ("bought", viewCards play.bought),
    ("turns", .strings (← play.turns.mapM fun t => t.action.description)),
    ("operations", .array (play.turns.map fun t =>
      .array (t.operations.map (writeOperation .brief)))),
    ("res", viewAmounts q.balance),
    ("prod", viewAmounts q.productionOf),
    ("tr", .int q.rating),
    ("vp", .int (← play.game.points p))]

end Terraforming.Wire
