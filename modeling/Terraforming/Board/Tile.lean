import Terraforming.Card.Terms

/-!
# Tiles

What occupies a location, and what is to be put there.
-/

namespace Terraforming

/-- Players are known by number. -/
abbrev PlayerId := Int

inductive TileKind where
  | empty
  | ocean
  | city
  | greenery
  | specialTile
deriving DecidableEq, Repr

namespace TileKind

def word : TileKind → String
  | empty => "empty"
  | ocean => "ocean"
  | city => "city"
  | greenery => "greenery"
  | specialTile => "special_tile"

def all : List TileKind :=
  [empty, ocean, city, greenery, specialTile]

instance : Vocabulary TileKind := ⟨all, word⟩

end TileKind

/-- The occupant of a location.  Oceans and empty locations have no owner; only a city has a city
kind and only a special tile has a tile name. -/
structure Tile where
  kind : TileKind
  owner : Option PlayerId := none
  cityKind : Option CityKind := none
  specialTile : Option SpecialTile := none
deriving DecidableEq, Repr

namespace Tile

def empty : Tile := { kind := .empty }

def ocean : Tile := { kind := .ocean }

def city (kind : CityKind) (owner : PlayerId) : Tile :=
  { kind := .city, owner, cityKind := kind }

def greenery (owner : PlayerId) : Tile := { kind := .greenery, owner }

def special (tile : SpecialTile) (owner : PlayerId) : Tile :=
  { kind := .specialTile, owner, specialTile := tile }

def isEmpty (t : Tile) : Bool := t.kind = .empty

def isCity (t : Tile) : Bool := t.kind = .city

/-- The owner as a message shows it. -/
def ownerText (t : Tile) : String :=
  match t.owner with
  | some p => "@p" ++ toString p
  | none => "@pNone"

/-- The tile as a message shows it: what it is and whose.  A city without a kind and a special tile
without a name have no such text. -/
def text? (t : Tile) : Option String :=
  match t.kind with
  | .city => t.cityKind.map fun k => "city[" ++ k.word ++ "]" ++ t.ownerText
  | .greenery => some ("greenery" ++ t.ownerText)
  | .specialTile => t.specialTile.map fun s => s.word ++ t.ownerText
  | .empty | .ocean => some t.kind.word

end Tile

end Terraforming
