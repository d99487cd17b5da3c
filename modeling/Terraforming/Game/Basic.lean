import Terraforming.Board.Layout
import Terraforming.Data.Ledger
import Terraforming.Game.Honors
import Terraforming.Game.Operation
import Terraforming.Player.Scoring

/-!
# Games

The board, the players, the two piles of cards, and the log of every operation that was accepted.
Shuffles are drawn from the seed of the game and the number of shuffles before, so that the log
replays: applied to the game as it was at the start, it gives the game as it is.
-/

namespace Terraforming

structure Game where
  board : Board
  players : Table PlayerId Player
  /-- The draw deck, the next card first. -/
  deck : List Card := []
  discard : List Card := []
  seed : Int := 0
  /-- How often the discard pile was shuffled into the deck. -/
  reshuffles : Int := 0
  generation : Int := 1
  /-- Who claimed which milestone, in the order claimed. -/
  claimed : Ledger String PlayerId := ∅
  /-- Who funded which award, in the order funded. -/
  funded : Ledger String PlayerId := ∅
  log : List Operation := []
deriving DecidableEq

namespace Game

/-- A game that is about to start, if no two players have the same id. -/
def new (players : List Player) (board : Board := .standard) (deck : List Card := [])
    (seed : Int := 0) : Except Misuse Game :=
  let rec seat : List Player → Table PlayerId Player → Except Misuse (Table PlayerId Player)
    | [], seated => .ok seated
    | p :: ps, seated =>
      if seated.contains p.id then .error (.duplicatePlayer p.id)
      else seat ps (seated.insert p.id p)
  (seat players ∅).map fun players => { board, players, deck, seed }

/-! ## Being the same game -/

/-- The game with every card in normal form, and milestones and awards in order of name. -/
def normal (g : Game) : Game :=
  { g with
    players := g.players.mapValues Player.normal
    deck := g.deck.map Card.normal
    discard := g.discard.map Card.normal
    claimed := .ofList g.claimed.table.entries
    funded := .ofList g.funded.table.entries
    log := g.log.map Operation.normal }

/-- Two games are the same when everything in them is, apart from the order in which milestones
and awards were taken and in which cards list their production. -/
instance : BEq Game := ⟨fun g h => decide (g.normal = h.normal)⟩

/-! ## Players -/

/-- The ids of the players, ascending. -/
def playerIds (g : Game) : List PlayerId := g.players.keys

def player? (g : Game) (p : PlayerId) : Option Player := g.players.get? p

def player (g : Game) (p : PlayerId) : Except Fault Player :=
  match g.player? p with
  | some q => .ok q
  | none => .error (.misuse (.unknownPlayer p))

/-- The other players, by id. -/
def opponentsOf (g : Game) (p : PlayerId) : List Player :=
  (g.players.entries.filter fun e => e.1 ≠ p).map (·.2)

/-- The game with a player replaced. -/
def withPlayer (g : Game) (p : PlayerId) (q : Player) : Game :=
  { g with players := g.players.insert p q }

/-! ## Cards -/

/-- Every card in the game: in the hands and in play, player by player, and then in the piles. -/
def cards (g : Game) : List Card :=
  g.players.values.flatMap (fun q => q.hand ++ q.played.map (·.card)) ++ g.deck ++ g.discard

/-! ## Scoring -/

/-- The points of every player for the award of a name. -/
def awardPoints (g : Game) (name : String) : Except Fault (List (PlayerId × Int)) :=
  match Vocabulary.ofWord? (α := Award) name with
  | some a => .ok (a.pointsOf g.players.values g.board)
  | none => .error .unlisted

/-- The points of one player for the award of a name. -/
def awardPointsOf (g : Game) (p : PlayerId) (name : String) : Except Fault Int := do
  let points ← g.awardPoints name
  return (((points.find? fun e => e.1 = p).map (·.2)).getD 0)

def milestonePoints (g : Game) (p : PlayerId) : Int :=
  Milestone.points * (g.claimed.values.count p : Nat)

/-- Everything that a player scores when the game ends. -/
def points (g : Game) (p : PlayerId) : Except Fault Int := do
  let own ← (← g.player p).points g.board
  let awards ← g.funded.keys.mapM (g.awardPointsOf p)
  return own + g.milestonePoints p + total awards

/-- The points of every player, by id. -/
def scores (g : Game) : Except Fault (List (PlayerId × Int)) :=
  g.playerIds.mapM fun p => do return (p, ← g.points p)

end Game

end Terraforming
