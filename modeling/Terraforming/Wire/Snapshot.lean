import Terraforming.Wire.Games
import Terraforming.Wire.Parse

/-!
# Snapshots

A snapshot is everything there is to a game, written down: maps become lists of entries and sets
become sorted lists.  Loading a snapshot checks the contents of the board again, and refuses
versions of the format that it does not know.
-/

namespace Terraforming

/-- Why a game cannot be read off a snapshot, or cannot be written as one. -/
inductive SnapshotError where
  | malformed (problems : List Problem)
  | fault (f : Fault)

namespace Wire

open Reader

/-- The version of the format. -/
def snapshotVersion : Int := 1

/-! ## Reading -/

def readCityEntry : Reader (Location × (Option CityKind × Option PlayerId)) :=
  record .modelType fun ms =>
    (fun l kind owner => (l, some kind, some owner)) <$> field ms "location" readLocation
      <*> field ms "city_kind" term
      <*> field ms "owner" int

def readGreeneryEntry : Reader (Hex × Option PlayerId) :=
  record .modelType fun ms =>
    (fun h owner => (h, some owner)) <$> field ms "coordinates" readHex <*> field ms "owner" int

def readSpecialTileEntry : Reader (Hex × (Option SpecialTile × Option PlayerId)) :=
  record .modelType fun ms =>
    (fun h tile owner => (h, some tile, some owner)) <$> field ms "coordinates" readHex
      <*> field ms "tile" term
      <*> field ms "owner" int

def readBoard (limits : Json.Limits) : Reader Board.Contents :=
  record .modelType fun ms =>
    Board.Contents.mk <$> field ms "spaces" (list (readSpace limits))
      <*> fieldOr ms "cities" [] (list readCityEntry)
      <*> fieldOr ms "oceans" [] (list readHex)
      <*> fieldOr ms "greeneries" [] (list readGreeneryEntry)
      <*> fieldOr ms "special_tiles" [] (list readSpecialTileEntry)
      <*> field ms "oxygen" int
      <*> field ms "temperature" int

def readPlayedCard (limits : Json.Limits) : Reader PlayedCard :=
  record .recordType fun ms =>
    PlayedCard.mk <$> field ms "instance_id" int <*> field ms "card" (readCard limits)

def readActiveEffect (limits : Json.Limits) : Reader ActiveEffect :=
  record .recordType fun ms =>
    ActiveEffect.mk <$> field ms "source" int <*> field ms "effect" (readEffect limits)

def readHolding : Reader (Holding × Int) :=
  record .modelType fun ms =>
    (fun i kind n => (⟨i, kind⟩, n)) <$> field ms "instance_id" int
      <*> field ms "card_resource" term
      <*> field ms "count" int

def readPool : Reader Pool := fun j => Table.ofList <$> readAmounts j

def readPlayer (limits : Json.Limits) : Reader Player :=
  record .modelType fun ms =>
    Player.mk <$> field ms "player_id" int
      <*> field ms "resources" readPool
      <*> field ms "production" readPool
      <*> fieldOr ms "played_cards" [] (list (readPlayedCard limits))
      <*> fieldOr ms "card_resources" ∅ (fun j => Table.ofList <$> list readHolding j)
      <*> fieldOr ms "tapped_active_cards" ∅ (fun j => KeySet.ofList <$> list int j)
      <*> fieldOr ms "hand" [] (readCards limits)
      <*> field ms "terraform_rating" int
      <*> fieldOr ms "effects" [] (list (readActiveEffect limits))
      <*> fieldOr ms "next_card_this_generation_effects" [] (list (readEffect limits))
      <*> fieldOr ms "next_instance_id" 0 int

def readNames : Reader (Ledger String PlayerId) := fun j =>
  Ledger.ofList <$> dictionary string int j

/-- What a snapshot says, before it is checked. -/
structure Snapshot where
  version : Int
  board : Board.Contents
  players : List Player
  deck : List Card
  discard : List Card
  seed : Int
  reshuffles : Int
  generation : Int
  claimed : Ledger String PlayerId
  funded : Ledger String PlayerId
  log : List Operation

def readSnapshot (limits : Json.Limits) : Reader Snapshot :=
  record .modelType fun ms =>
    Snapshot.mk <$> fieldOr ms "version" snapshotVersion int
      <*> field ms "board" (readBoard limits)
      <*> field ms "players" (list (readPlayer limits))
      <*> fieldOr ms "draw_deck" [] (readCards limits)
      <*> fieldOr ms "discard_pile" [] (readCards limits)
      <*> fieldOr ms "random_seed" 0 int
      <*> fieldOr ms "reshuffle_count" 0 int
      <*> fieldOr ms "generation" 1 int
      <*> fieldOr ms "claimed_milestones" ∅ readNames
      <*> fieldOr ms "funded_awards" ∅ readNames
      <*> fieldOr ms "operation_log" [] (list (readOperation limits))

/-- The game of a snapshot, if its version is known and its board is sound. -/
def Snapshot.game (s : Snapshot) : Except Fault Game :=
  if s.version ≠ snapshotVersion then .error (.misuse (.unsupportedVersion s.version))
  else match s.board.toBoard with
    | .error v => .error (.violation v)
    | .ok board => .ok
        { board
          players := Table.ofList (s.players.map fun p => (p.id, p))
          deck := s.deck
          discard := s.discard
          seed := s.seed
          reshuffles := s.reshuffles
          generation := s.generation
          claimed := s.claimed
          funded := s.funded
          log := s.log }

/-! ## Writing -/

def writeCityEntry (e : Location × (Option CityKind × Option PlayerId)) : Json :=
  .object [("location", writeLocationFull e.1), ("city_kind", Json.optional .term e.2.1),
    ("owner", Json.optional .int e.2.2)]

def writeGreeneryEntry (e : Hex × Option PlayerId) : Json :=
  .object [("coordinates", writeHexFull e.1), ("owner", Json.optional .int e.2)]

def writeSpecialTileEntry (e : Hex × (Option SpecialTile × Option PlayerId)) : Json :=
  .object [("coordinates", writeHexFull e.1), ("tile", Json.optional .term e.2.1),
    ("owner", Json.optional .int e.2.2)]

def writeBoard (b : Board) : Json :=
  .object [
    ("spaces", .array (b.spaces.values.map (writeSpace .full))),
    ("cities", .array (b.cities.entries.map writeCityEntry)),
    ("oceans", .array (b.oceans.keys.map writeHexFull)),
    ("greeneries", .array (b.greeneries.entries.map writeGreeneryEntry)),
    ("special_tiles", .array (b.specialTiles.entries.map writeSpecialTileEntry)),
    ("oxygen", .int b.oxygen),
    ("temperature", .int b.temperature)]

def writePlayedCard (c : PlayedCard) : Json :=
  .object [("instance_id", .int c.instanceId), ("card", writeCard .full c.card)]

def writeActiveEffect (e : ActiveEffect) : Json :=
  .object [("source", .int e.source), ("effect", writeEffect .full e.effect)]

def writeHolding (e : Holding × Int) : Json :=
  .object [("instance_id", .int e.1.instanceId), ("card_resource", .term e.1.kind),
    ("count", .int e.2)]

def writePool (p : Pool) : Json := .amounts p.entries

def writePlayer (p : Player) : Json :=
  .object [
    ("player_id", .int p.id),
    ("resources", writePool p.resources),
    ("production", writePool p.production),
    ("played_cards", .array (p.played.map writePlayedCard)),
    ("card_resources", .array (p.cardResources.entries.map writeHolding)),
    ("tapped_active_cards", .array (p.tapped.keys.map .int)),
    ("hand", .array (p.hand.map (writeCard .full))),
    ("terraform_rating", .int p.rating),
    ("effects", .array (p.effects.map writeActiveEffect)),
    ("next_card_this_generation_effects",
      .array (p.nextCardEffects.map (writeEffect .full))),
    ("next_instance_id", .int p.nextInstance)]

def writeNames (l : Ledger String PlayerId) : Json :=
  .object (l.entries.map fun e => (e.1, .int e.2))

def writeGame (g : Game) : Json :=
  .object [
    ("version", .int snapshotVersion),
    ("board", writeBoard g.board),
    ("players", .array (g.players.values.map writePlayer)),
    ("draw_deck", .array (g.deck.map (writeCard .full))),
    ("discard_pile", .array (g.discard.map (writeCard .full))),
    ("random_seed", .int g.seed),
    ("reshuffle_count", .int g.reshuffles),
    ("generation", .int g.generation),
    ("claimed_milestones", writeNames g.claimed),
    ("funded_awards", writeNames g.funded),
    ("operation_log", .array (g.log.map (writeOperation .full)))]

/-! ## What cannot be written -/

/-- What is missing on a tile that has to have an owner. -/
def ownerProblems (owner : Option PlayerId) : List Problem :=
  if owner.isNone then [⟨["owner"], .intType⟩] else []

/-- What is missing on a tile whose kind has to be named. -/
def kindProblems {α : Type} (name : String) (kind : Option α) : List Problem :=
  if kind.isNone then [⟨[name], .enumTerm⟩] else []

/-- What keeps a board from being written: what is missing on the first tile that lacks
something. -/
def unwritable (b : Board) : List Problem :=
  let entries :=
    b.cities.entries.map (fun e => kindProblems "city_kind" e.2.1 ++ ownerProblems e.2.2) ++
    b.greeneries.entries.map (fun e => ownerProblems e.2) ++
    b.specialTiles.entries.map (fun e => kindProblems "tile" e.2.1 ++ ownerProblems e.2.2)
  (entries.find? fun ps => !ps.isEmpty).getD []

end Wire

namespace Game

/-- The game that a JSON value describes. -/
def ofJson (j : Json) (limits : Json.Limits := .files) : Except SnapshotError Game :=
  match Wire.readSnapshot limits j with
  | .bad ps => .error (.malformed ps)
  | .ok s =>
    match s.game with
    | .ok g => .ok g
    | .error f => .error (.fault f)

/-- The game that a text describes. -/
def load (s : String) (limits : Json.Limits := .files) : Except SnapshotError Game :=
  match Json.ofText? s limits with
  | some j => ofJson j limits
  | none => .error (.malformed [⟨[], .invalidJson⟩])

/-- The game as JSON, if every tile has what its entry needs. -/
def dump (g : Game) : Except SnapshotError Json :=
  match Wire.unwritable g.board with
  | [] => .ok (Wire.writeGame g)
  | ps => .error (.malformed ps)

end Game

end Terraforming
