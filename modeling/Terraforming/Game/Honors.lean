import Terraforming.Board.Basic
import Terraforming.Player.Basic

/-!
# Milestones and awards

A milestone is claimed by reaching a threshold.  An award is funded by anyone, and when the game
ends it pays whoever leads in it and, unless the lead is shared, the runners-up.  Three of each can
be taken in a game.
-/

namespace Terraforming

/-! ## Milestones -/

inductive Milestone where
  | terraformer
  | mayor
  | gardener
  | builder
  | planner
deriving DecidableEq, Repr

namespace Milestone

def word : Milestone → String
  | terraformer => "Terraformer"
  | mayor => "Mayor"
  | gardener => "Gardener"
  | builder => "Builder"
  | planner => "Planner"

def all : List Milestone := [terraformer, mayor, gardener, builder, planner]

instance : Vocabulary Milestone := ⟨all, word⟩

def description : Milestone → String
  | terraformer => "terraform rating of at least 35"
  | mayor => "own at least 3 cities"
  | gardener => "own at least 3 greeneries"
  | builder => "have at least 8 building tags"
  | planner => "have at least 16 cards in hand"

def threshold : Milestone → Int
  | terraformer => 35
  | mayor => 3
  | gardener => 3
  | builder => 8
  | planner => 16

/-- What a player has of what the milestone counts. -/
def metric (m : Milestone) (p : Player) (b : Board) : Int :=
  match m with
  | terraformer => p.rating
  | mayor => b.cityCount false (some p.id)
  | gardener => (b.greeneriesOf p.id).length
  | builder => p.tagsInPlay (some .building)
  | planner => p.hand.length

def isReached (m : Milestone) (p : Player) (b : Board) : Bool := m.threshold ≤ m.metric p b

/-- What claiming a milestone costs. -/
def cost : Nat := 8

/-- What a claimed milestone is worth. -/
def points : Nat := 5

/-- How many milestones can be claimed in a game. -/
def limit : Nat := 3

end Milestone

/-! ## Awards -/

inductive Award where
  | landlord
  | banker
  | scientist
  | thermalist
  | miner
deriving DecidableEq, Repr

namespace Award

def word : Award → String
  | landlord => "Landlord"
  | banker => "Banker"
  | scientist => "Scientist"
  | thermalist => "Thermalist"
  | miner => "Miner"

def all : List Award := [landlord, banker, scientist, thermalist, miner]

instance : Vocabulary Award := ⟨all, word⟩

/-- What a player has of what the award ranks. -/
def metric (a : Award) (p : Player) (b : Board) : Int :=
  match a with
  | landlord =>
    b.cityCount false (some p.id) + (b.greeneriesOf p.id).length + (b.specialTilesOf p.id).length
  | banker => p.productionOf (some .megacredits)
  | scientist => p.tagsInPlay (some .science)
  | thermalist => p.balance (some .heat)
  | miner => p.balance (some .steel) + p.balance (some .titanium)

/-- What funding costs, by how many awards are funded already. -/
def costs : List Nat := [8, 14, 20]

/-- How many awards can be funded in a game. -/
def limit : Nat := costs.length

/-- The cost of funding one more award when `funded` are, or nothing when that is all of them.
A negative count is taken from the end of the price list. -/
def nextCost (funded : Int) : Except Fault (Option Nat) :=
  if limit ≤ funded then .ok none
  else if 0 ≤ funded then .ok costs[funded.toNat]?
  else if -limit ≤ funded then .ok costs[(limit + funded).toNat]?
  else .error .unlisted

def firstPlace : Int := 5

def secondPlace : Int := 2

/-- The scores that there are, from the greatest down. -/
def ranking (scores : List Int) : List Int :=
  (KeySet.ofList scores).keys.mergeSort fun m n => n ≤ m

/-- The points that a score is worth among some scores: the first place to the greatest, and the
second place to the next one in the ranking, if only one has the first. -/
def pointsAmong (scores : List Int) (score : Int) : Int :=
  match ranking scores with
  | [] => 0
  | best :: others =>
    if score = best then firstPlace
    else if scores.count best = 1 ∧ others.head? = some score then secondPlace
    else 0

/-- The points of each player for one award. -/
def pointsOf (a : Award) (players : List Player) (b : Board) : List (PlayerId × Int) :=
  let scores := (Ledger.ofList (players.map fun p => (p.id, a.metric p b))).entries
  scores.map fun s => (s.1, pointsAmong (scores.map (·.2)) s.2)

end Award

end Terraforming
