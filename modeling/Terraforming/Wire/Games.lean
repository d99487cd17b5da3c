import Terraforming.Board.Restriction
import Terraforming.Game.Basic
import Terraforming.Turn.Action
import Terraforming.Turn.Choice
import Terraforming.Wire.Cards

/-!
# Boards, operations and turns on the wire

How locations, spaces, tiles, operations and turn actions are read from JSON and written to it.
-/

namespace Terraforming.Wire

open Reader

/-! ## Locations -/

def readHex : Reader Hex :=
  record .recordType fun ms => Hex.mk <$> field ms "x" int <*> field ms "y" int

def writeHexFull (h : Hex) : Json := .object [("x", .int h.x), ("y", .int h.y)]

def writeHex (s : Style) (h : Hex) : Json :=
  match s with
  | .full => writeHexFull h
  | .brief => .array [.int h.x, .int h.y]

/-- A location is a hex or a named place, and not both. -/
def checkLocation : Option Hex × Option Site → Except String Location
  | (some h, none) => .ok (.onMars h)
  | (none, some s) => .ok (.offMars s)
  | _ => .error "TileLocation needs exactly one of coordinates / special"

def readLocation : Reader Location :=
  record .recordType fun ms =>
    (Prod.mk <$> fieldOption ms "coordinates" readHex
      <*> fieldOption ms "special" term).check checkLocation

def writeLocationFull : Location → Json
  | .onMars h => .object [("coordinates", writeHexFull h), ("special", .null)]
  | .offMars s => .object [("coordinates", .null), ("special", .term s)]

def writeLocation (s : Style) (l : Location) : Json :=
  match s, l with
  | .full, l => writeLocationFull l
  | .brief, .onMars h => writeHex .brief h
  | .brief, .offMars site => .term site

/-! ## Spaces, tiles and restrictions -/

def readSpace (limits : Json.Limits := .files) : Reader Space :=
  record .recordType fun ms =>
    Space.mk <$> field ms "location" readLocation
      <*> field ms "designations" (fun j => KeySet.ofList <$> array .setType term j)
      <*> fieldOr ms "special_locations" ∅ (fun j => KeySet.ofList <$> array .setType term j)
      <*> fieldOr ms "placement_bonus" [] (readImpacts limits)
      <*> fieldOption ms "name" string

def writeSpace (s : Style) (p : Space) : Json :=
  .object ([("location", writeLocation s p.location),
      ("designations", .terms p.designations.keys)] ++
    s.list "special_locations" (p.sites.keys.map .term) ++
    s.list "placement_bonus" (writeImpacts s p.bonuses) ++
    s.option "name" .string p.name)

def readTile : Reader Tile :=
  record .recordType fun ms =>
    Tile.mk <$> field ms "kind" term
      <*> fieldOption ms "owner" int
      <*> fieldOption ms "city_kind" term
      <*> fieldOption ms "special_tile" term

def readRestriction : Reader Restriction :=
  record .recordType fun ms =>
    Restriction.mk <$> field ms "restriction_type" term
      <*> fieldOption ms "special_location" term

def writeRestriction (s : Style) (r : Restriction) : Json :=
  .object ([("restriction_type", .term r.type)] ++ s.option "special_location" .term r.site)

/-! ## Operations -/

def readOperation (limits : Json.Limits := .files) : Reader Operation :=
  record .recordType fun ms =>
    Operation.mk <$> field ms "op_type" term
      <*> fieldOption ms "player_id" int
      <*> fieldOption ms "resource" term
      <*> fieldOption ms "card_resource" term
      <*> fieldOr ms "count" 0 int
      <*> fieldOption ms "instance_id" int
      <*> fieldOption ms "card" (readCard limits)
      <*> fieldOr ms "cards" [] (tuple (readCard limits))
      <*> fieldOption ms "location" readLocation
      <*> fieldOption ms "city_kind" term
      <*> fieldOption ms "special_tile" term
      <*> fieldOption ms "effect" (readEffect limits)
      <*> fieldOr ms "next_card_only" false flag
      <*> fieldOption ms "name" string

def writeOperation (s : Style) (o : Operation) : Json :=
  .object ([("op_type", .term o.type)] ++ s.option "player_id" .int o.player ++
    s.option "resource" .term o.resource ++ s.option "card_resource" .term o.cardResource ++
    s.int "count" 0 o.count ++ s.option "instance_id" .int o.instanceId ++
    s.option "card" (writeCard s) o.card ++ s.list "cards" (o.cards.map (writeCard s)) ++
    s.option "location" (writeLocation s) o.location ++ s.option "city_kind" .term o.cityKind ++
    s.option "special_tile" .term o.specialTile ++ s.option "effect" (writeEffect s) o.effect ++
    s.field "next_card_only" (!o.nextCardOnly) (.bool o.nextCardOnly) ++
    s.option "name" .string o.name)

/-! ## Turns -/

def readTurnAction (limits : Json.Limits := .files) : Reader TurnAction :=
  record .recordType fun ms =>
    TurnAction.mk <$> field ms "action_type" term
      <*> fieldOption ms "card" (readCard limits)
      <*> fieldOption ms "instance_id" int
      <*> fieldOr ms "action_index" 0 int
      <*> fieldOption ms "project" term
      <*> fieldOption ms "name" string

/-- A pair of a player and an instance. -/
def writeCardTarget (t : PlayerId × Int) : Json := .array [.int t.1, .int t.2]

/-- The legal answers to a decision, in brief. -/
def writeOptions : Options → Json
  | .locations ls => .array (ls.map (writeLocation .brief))
  | .players ps => .array (ps.map .int)
  | .cards ts => .array (ts.map writeCardTarget)
  | .indexes n => .array ((List.range n).map .nat)

end Terraforming.Wire
