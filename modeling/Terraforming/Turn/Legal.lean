import Terraforming.Turn.Play

/-!
# Legal turn actions

Every turn action that a player could start right now.  An action is listed when what it asks for
at the start is there; whether every decision inside it has a legal answer shows when it is
resolved.
-/

namespace Terraforming

/-- The cards without those whose name came up before. -/
def distinctByName : List Card → List Card
  | [] => []
  | c :: cs => c :: (distinctByName cs).filter fun d => d.name ≠ c.name

namespace Game

def legalPlays (g : Game) (q : Player) : Except Fault (List TurnAction) := do
  let playable ← (distinctByName q.hand).filterM fun c => do
    return (← q.canPlay g.board c).isSome
  return playable.map .playCard

def legalCardActions (q : Player) : List TurnAction :=
  (q.activeCards.filter fun c => !q.tapped.contains c.instanceId).flatMap fun c =>
    (List.range c.card.actions.length).map fun (n : Nat) => .performAction c.instanceId n

def legalProjects (g : Game) (q : Player) : Except Fault (List TurnAction) := do
  let affordable ← StandardProject.all.filterM fun s => q.canAfford s.cost
  return (affordable.filter fun s => (g.projectRefusal? s).isNone).map .standardProject

def legalMilestones (g : Game) (q : Player) : List TurnAction :=
  ((Milestone.all.map word).filter fun (n : String) =>
    (g.milestoneRefusal? q n).isNone).map .claimMilestone

def legalAwards (g : Game) (q : Player) : List TurnAction :=
  ((Award.all.map word).filter fun (n : String) => (g.awardRefusal? q n).isNone).map .fundAward

/-- Every turn action that `p` could start; passing comes last. -/
def legalActions (g : Game) (p : PlayerId) : Except Fault (List TurnAction) := do
  let q ← g.player p
  let plays ← g.legalPlays q
  let projects ← g.legalProjects q
  return plays ++ legalCardActions q ++ projects ++ g.legalMilestones q ++ g.legalAwards q ++
    [.pass]

end Game

end Terraforming
