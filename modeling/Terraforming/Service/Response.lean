import Terraforming.Service.Moves
import Terraforming.Service.Queries

/-!
# Responses

How the answers of the service are written as JSON.  Every field is written, also one that is left
open.
-/

namespace Terraforming

/-- The version of the interface. -/
def interfaceVersion : String := "v1"

/-- The version of the service. -/
def serviceVersion : String := "1.0.0"

def versionField : String × Json := ("api_version", .string interfaceVersion)

namespace Rejection

def json (r : Rejection) : Json :=
  .object [("error", .string r.message), ("error_code", .string r.code.word),
    ("details", r.details), versionField]

end Rejection

/-! ## Games -/

namespace GameSummary

def playerJson (g : GameSummary) (e : PlayerId × Player) : Json :=
  .object [
    ("player_id", .int e.1),
    ("terraform_rating", .int e.2.rating),
    ("resources", .amounts e.2.resources.entries),
    ("production", .amounts e.2.production.entries),
    ("hand", .strings (e.2.hand.map (·.name))),
    ("played_cards", .strings (e.2.played.map (·.card.name))),
    ("victory_points", .int (((g.points.find? fun p => p.1 = e.1).map (·.2)).getD 0))]

def json (g : GameSummary) : Json :=
  let game := g.hosted.game
  .object [
    ("game_id", .string g.id),
    ("catalog", .string g.hosted.catalog.name),
    ("generation", .int game.generation),
    ("oxygen", .int game.board.oxygen),
    ("temperature", .int game.board.temperature),
    ("oceans", .nat game.board.oceanCount),
    ("players", .array (game.players.entries.map g.playerJson)),
    ("deck_size", .nat game.deck.length),
    ("discard_size", .nat game.discard.length),
    versionField]

end GameSummary

namespace Service

def idsJson (ids : List String) : Json :=
  .object [("games", .strings ids), ("count", .nat ids.length)]

def endedJson (id : String) : Json := .object [("success", .bool true), ("game_id", .string id)]

def snapshotJson (id : String) (snapshot : Json) : Json :=
  .object [("game_id", .string id), ("snapshot", snapshot), versionField]

end Service

/-! ## Moves -/

namespace Location

/-- A location as it can be sent back. -/
def optionJson : Location → Json
  | onMars h => .object [("x", .int h.x), ("y", .int h.y)]
  | offMars s => .object [("special", .term s)]

end Location

namespace Options

/-- The legal answers, each as it can be sent back. -/
def json : Options → List Json
  | locations ls => ls.map Location.optionJson
  | players ps => ps.map .int
  | cards cs => cs.map fun c => .object [("player_id", .int c.1), ("instance_id", .int c.2)]
  | indexes n => (List.range n).map .nat

end Options

namespace Pending

def json (p : Pending) : Json :=
  .object [("choice_type", .string p.options.typeWord), ("impact", .term p.impact.type),
    ("options", .array p.options.json)]

end Pending

namespace Attempt

/-- Why an attempt is not permitted. -/
def refusal? : Attempt → Option Refusal
  | unplayable r => some r
  | _ => none

/-- The decision that an attempt waits for. -/
def pending? : Attempt → Option Pending
  | waiting _ _ p _ _ => some p
  | _ => none

end Attempt

namespace MoveAnswer

def json (m : MoveAnswer) : Json :=
  .object [
    ("status", .string m.attempt.statusWord),
    ("reason", Json.optional (fun (r : Refusal) => .string r.message) m.attempt.refusal?),
    ("operations", .array (m.attempt.operations.map (Wire.writeOperation .full))),
    ("pending_choice", Json.optional Pending.json m.attempt.pending?),
    ("committed", .bool m.committed),
    ("game", m.game.json),
    versionField]

end MoveAnswer

/-! ## Queries -/

namespace SentLocation

def json (l : SentLocation) : Json :=
  .object [("x", Json.optional .int l.x), ("y", Json.optional .int l.y),
    ("special", Json.optional .term l.site)]

end SentLocation

namespace TileAnswer

/-- The kind of a city, or else which special tile it is. -/
def detail (t : Tile) : Json :=
  match t.cityKind, t.specialTile with
  | some kind, _ => .term kind
  | none, some tile => .term tile
  | none, none => .null

def json (a : TileAnswer) : Json :=
  .object [("location", a.location.json), ("kind", .term a.tile.kind),
    ("owner", Json.optional .int a.tile.owner), ("detail", detail a.tile)]

end TileAnswer

namespace PlaySummary

def json (p : PlaySummary) : Json :=
  .object [
    ("purchased", .strings (p.bought.map (·.name))),
    ("turns", .strings p.turns),
    ("megacredits", .int p.megacredits),
    ("terraform_rating", .int p.rating),
    ("victory_points", .int p.points)]

end PlaySummary

namespace Service

def playsJson (plays : List PlaySummary) : Json :=
  .object [("count", .nat plays.length), ("plays", .array (plays.map PlaySummary.json))]

def actionsJson (p : PlayerId) (actions : List String) : Json :=
  .object [("player_id", .int p), ("actions", .strings actions)]

def scoresJson (id : String) (scores : List (PlayerId × Int)) : Json :=
  .object [("game_id", .string id),
    ("scores", .object (scores.map fun e => (toString e.1, .int e.2)))]

/-! ## The service itself -/

def healthJson : Json :=
  .object [("status", .string "healthy"), ("service", .string "tharsis-engine"),
    ("version", .string serviceVersion)]

def frontJson : Json :=
  .object [("name", .string "Tharsis Engine API"), ("version", .string serviceVersion),
    ("environment", .string "development"), ("docs", .string "/api/docs"),
    ("health", .string "/health")]

end Service

end Terraforming
