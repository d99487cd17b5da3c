import Terraforming.Search.Branches
import Terraforming.Turn.Legal

/-!
# Searching a generation

Every way in which one player can spend a generation: which of the offered cards to buy, which
cards of the hand to play then, and how each decision on the way is answered.  By default the hand
is gone through once, in order, and each card is played or not; the other search also tries every
order of play.
-/

namespace Terraforming

/-- A turn, and the operations it took. -/
structure TakenTurn where
  action : TurnAction
  operations : List Operation := []

/-- One way to spend a generation. -/
structure GenerationPlay where
  bought : List Card
  turns : List TakenTurn
  game : Game

/-- What a search went through. -/
structure SearchCounts where
  subsets : Nat := 0
  affordable : Nat := 0
  attempts : Nat := 0
  leaves : Nat := 0

namespace SearchCounts

def add (a b : SearchCounts) : SearchCounts :=
  ⟨a.subsets + b.subsets, a.affordable + b.affordable, a.attempts + b.attempts,
    a.leaves + b.leaves⟩

end SearchCounts

/-- The plays found, and what it took to find them. -/
structure SearchResult where
  plays : List GenerationPlay := []
  counts : SearchCounts := {}

namespace SearchResult

/-- The results of a list, one after the other. -/
def join (rs : List SearchResult) : SearchResult :=
  ⟨rs.flatMap (·.plays), rs.foldl (fun n r => n.add r.counts) {}⟩

/-- One play that is complete. -/
def leaf (bought : List Card) (turns : List TakenTurn) (g : Game) : SearchResult :=
  ⟨[⟨bought, turns ++ [{ action := .pass }], g⟩], { leaves := 1 }⟩

/-- Attempts that were made on the way. -/
def attempts (n : Nat) : SearchResult := { counts := { attempts := n } }

end SearchResult

/-- The subsets of a list, each in the order of the list; the first element comes and goes
fastest. -/
def subsets {α : Type} : List α → List (List α)
  | [] => [[]]
  | x :: xs => (subsets xs).flatMap fun s => [s, x :: s]

namespace Game

/-- Play the card or leave it, for each card of a hand in turn. -/
def playOrSkip (p : PlayerId) (bought : List Card) :
    List Card → List TakenTurn → Game → Except Fault SearchResult
  | [], turns, g => .ok (.leaf bought turns g)
  | c :: cs, turns, g => do
    let plays ← g.playBranches p c
    let played ← plays.found.mapM fun next =>
      playOrSkip p bought cs (turns ++ [⟨.playCard c, next.operations⟩]) next.game
    let skipped ← playOrSkip p bought cs turns g
    return .join (.attempts plays.attempts :: played ++ [skipped])

/-- How many cards are not in play.  Every play of a card takes one of them away. -/
def cardsOutOfPlay (g : Game) : Nat :=
  total (g.players.values.map fun q => q.hand.length) + g.deck.length + g.discard.length

/-- Stop, or play any card of the hand, and go on from there; with at most `limit` plays. -/
def playInAnyOrder (p : PlayerId) (bought : List Card) :
    (limit : Nat) → List TakenTurn → Game → Except Fault SearchResult
  | 0, turns, g => .ok (.leaf bought turns g)
  | limit + 1, turns, g => do
    let hand := (← g.player p).hand
    let played ← (distinctByName hand).mapM fun c => do
      let plays ← g.playBranches p c
      let further ← plays.found.mapM fun next =>
        playInAnyOrder p bought limit (turns ++ [⟨.playCard c, next.operations⟩]) next.game
      return .join (.attempts plays.attempts :: further)
    return .join (.leaf bought turns g :: played)

/-- Every way to spend the generation after buying some of the offered cards. -/
def searchAfter (g : Game) (p : PlayerId) (allOrderings : Bool) (bought : List Card) :
    Except Fault SearchResult := do
  match ← g.purchase p bought with
  | none => return { counts := { subsets := 1 } }
  | some g => do
    let found ←
      if allOrderings then playInAnyOrder p bought g.cardsOutOfPlay [] g
      else playOrSkip p bought (← g.player p).hand [] g
    return .join [{ counts := { subsets := 1, affordable := 1 } }, found]

/-- Every way in which `p` can spend the generation. -/
def searchGeneration (g : Game) (p : PlayerId) (offered : List Card)
    (allOrderings : Bool := false) : Except Fault SearchResult := do
  if maxOffered < offered.length then throw (.misuse (.tooManyOffered offered.length))
  return .join (← (subsets offered).mapM (g.searchAfter p allOrderings))

end Game

/-- Every way in which a player can spend a generation against some opponents, with no deck to draw
from. -/
def generationPlays (player : Player) (opponents : List Player) (offered : List Card)
    (board : Board := .standard) : Except Fault (List GenerationPlay) := do
  match Game.new (player :: opponents) board with
  | .error m => throw (.misuse m)
  | .ok g => return (← g.searchGeneration player.id offered).plays

end Terraforming
