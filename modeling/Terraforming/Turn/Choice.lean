import Terraforming.Board.Location
import Terraforming.Board.Tile
import Terraforming.Card.Impact

/-!
# Decisions

Some impacts wait for a decision: where a tile goes, whose plants are lost, which card is meant,
which option is taken.  A pending decision lists every legal answer.  A `Choice` is what a player
hands in; of its fields, a decision reads those of its own type.
-/

namespace Terraforming

/-- Every legal answer to a decision. -/
inductive Options where
  | locations (ls : List Location)
  | players (ps : List PlayerId)
  | cards (cs : List (PlayerId × Int))
  /-- The numbers below `count`. -/
  | indexes (count : Nat)
deriving DecidableEq, Repr

namespace Options

/-- The word for the type of decision. -/
def typeWord : Options → String
  | locations _ => "location"
  | players _ => "player"
  | cards _ => "card"
  | indexes _ => "option"

def count : Options → Nat
  | locations ls => ls.length
  | players ps => ps.length
  | cards cs => cs.length
  | indexes n => n

end Options

/-- What a player answers to one decision. -/
structure Choice where
  location : Option Location := none
  player : Option PlayerId := none
  instanceId : Option Int := none
  option : Option Int := none
deriving DecidableEq, Repr

namespace Choice

def at_ (l : Location) : Choice := { location := l }

def ofPlayer (p : PlayerId) : Choice := { player := p }

def ofCard (c : PlayerId × Int) : Choice := { player := c.1, instanceId := c.2 }

def ofOption (n : Int) : Choice := { option := n }

/-- The card that a choice names. -/
def card? (c : Choice) : Option (PlayerId × Int) :=
  match c.player, c.instanceId with
  | some p, some i => some (p, i)
  | _, _ => none

/-! ## Showing a choice -/

def locationText : Location → String
  | .onMars h =>
    "TileLocation(coordinates=Coordinates(x=" ++ toString h.x ++ ", y=" ++ toString h.y ++
      "), special=None)"
  | .offMars s =>
    "TileLocation(coordinates=None, special=<SpecialLocation." ++ s.word.toUpper ++ ": '" ++
      s.word ++ "'>)"

def numberText : Option Int → String
  | some n => toString n
  | none => "None"

def text (c : Choice) : String :=
  "Choice(location=" ++ (c.location.map locationText).getD "None" ++
    ", player_id=" ++ numberText c.player ++
    ", instance_id=" ++ numberText c.instanceId ++
    ", option_index=" ++ numberText c.option ++ ")"

end Choice

/-- The choices that give each of the legal answers, in their order. -/
def Options.choices : Options → List Choice
  | .locations ls => ls.map .at_
  | .players ps => ps.map .ofPlayer
  | .cards cs => cs.map .ofCard
  | .indexes n => (List.range n).map fun (i : Nat) => .ofOption i

/-- A decision that is still open, and the impact that waits for it. -/
structure Pending where
  impact : Impact
  options : Options
deriving DecidableEq

end Terraforming
