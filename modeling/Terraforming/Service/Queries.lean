import Terraforming.Search.Generation
import Terraforming.Service.Basic

/-!
# Queries on hosted games

What can be asked without changing anything: the actions that a player could start, the scores, what
is on a location, every way to spend a generation, and the whole game as a snapshot.
-/

namespace Terraforming

/-- What occupies the location that was sent. -/
structure TileAnswer where
  location : SentLocation
  tile : Tile

/-- A play that a search found, in short. -/
structure PlaySummary where
  bought : List Card
  turns : List String
  megacredits : Int
  rating : Int
  points : Int

namespace Service

def snapshot (s : Service) (id : String) : Except Failure Json := do
  (← s.hosted id).game.dump.mapError .broken

def legalActions (s : Service) (id : String) (p : PlayerId) : Except Failure (List String) := do
  let h ← s.hostedFor id p
  unbroken do (← h.game.legalActions p).mapM TurnAction.description

def victoryPoints (s : Service) (id : String) : Except Failure (List (PlayerId × Int)) := do
  unbroken (← s.hosted id).game.scores

def tileAt (s : Service) (id : String) (l : SentLocation) : Except Failure TileAnswer := do
  let board := (← s.hosted id).game.board
  let location ← l.location.mapError .rejected
  if !board.spaces.contains location then throw (.rejected (.notOnBoard location))
  return ⟨l, board.status location⟩

/-! ## Searching -/

/-- The plays that a search finds.  A search that makes no sense is rejected. -/
def found (h : Hosted) (r : SearchRequest) (offered : List Card) :
    Except Failure (List GenerationPlay) :=
  match h.game.searchGeneration r.player offered r.allOrderings with
  | .ok result => .ok result.plays
  | .error (.misuse m) => .error (.rejected (.misuse m))
  | .error f => .error (.ofFault f)

def playSummary (p : PlayerId) (play : GenerationPlay) : Except Fault PlaySummary := do
  let q ← play.game.player p
  return {
    bought := play.bought
    turns := ← play.turns.mapM fun t => t.action.description
    megacredits := q.balance (some .megacredits)
    rating := q.rating
    points := ← play.game.points p }

def search (s : Service) (id : String) (r : SearchRequest) :
    Except Failure (List PlaySummary) := do
  let h ← s.hostedFor id r.player
  let plays ← found h r (← resolve h.catalog r.offered)
  unbroken (plays.mapM (playSummary r.player))

end Service

end Terraforming
