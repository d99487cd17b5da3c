import Terraforming.Game.Execute
import Terraforming.Service.Basic

/-!
# Moves on hosted games

An operation is applied to a copy of the game, which takes the place of the game if it was accepted.
A move leads from the game to an attempt, and the game goes on from where the attempt leads only if
the attempt is complete and the request says so.  The end of a generation is different: it changes
the game in place, and a player who cannot produce leaves those before as they are.
-/

namespace Terraforming

/-- The answer to a move. -/
structure MoveAnswer where
  attempt : Attempt
  committed : Bool
  game : GameSummary

namespace Service

/-! ## Raw operations -/

/-- Turn away an operation of a player who does not take part. -/
def checkPlayer (h : Hosted) (o : Operation) : Except Failure Unit :=
  match o.player.filter fun p => (h.game.player? p).isNone with
  | some p => .error (.rejected (.unknownPlayer p))
  | none => .ok ()

/-- The game after an operation; one that would corrupt it is not permitted. -/
def operated (h : Hosted) (o : Operation) : Except Failure Game :=
  match (h.game.execute o).toExcept with
  | .ok g => .ok g
  | .error (.violation v) => .error (.rejected (.violation v))
  | .error f => .error (.ofFault f)

def applyOperation (s : Service) (id : String) (o : Operation) :
    Except Failure GameSummary × Service :=
  let next : Except Failure (Hosted × Game) := do
    let h ← s.hosted id
    checkPlayer h o
    return (h, ← operated h o)
  match next with
  | .error f => (.error f, s)
  | .ok (h, g) => (({ h with game := g } : Hosted).summary id, s.withGame id h g)

/-! ## The end of a generation -/

def advance (s : Service) (id : String) : Except Failure GameSummary × Service :=
  match s.hosted id with
  | .error f => (.error f, s)
  | .ok h =>
    match h.game.advance with
    | .accepted g => (({ h with game := g } : Hosted).summary id, s.withGame id h g)
    | .refused f g => (.error (.ofFault f), s.withGame id h g)

/-! ## Moves -/

/-- The card that a move plays, if it plays one. -/
def cardFor (h : Hosted) : Move → Except Failure (Option Card)
  | .playCard name =>
    match h.catalog.get? name with
    | some c => .ok (some c)
    | none => .error (.rejected (.unknownCard name))
  | _ => .ok none

/-- The choices that are sent with a move. -/
def choicesFor (r : MoveRequest) : Except Failure (List Choice) :=
  (r.choices.mapM SentChoice.choice).mapError .rejected

/-- The turn action that a move stands for. -/
def turnFor (card : Option Card) : Move → TurnAction
  | .playCard _ => { type := .playCard, card }
  | .performAction instanceId index => .performAction instanceId index
  | .standardProject project => .standardProject project

/-- What a move comes to. -/
def attempt (h : Hosted) (r : MoveRequest) : Except Failure Attempt := do
  let card ← cardFor h r.move
  let choices ← choicesFor r
  unbroken (h.game.takeTurn r.player (turnFor card r.move) choices)

/-- The game that a move puts in place of the one before, if it does. -/
def committed? (r : MoveRequest) : Attempt → Option Game
  | .complete _ g => if r.commit then some g else none
  | _ => none

def move (s : Service) (id : String) (r : MoveRequest) : Except Failure MoveAnswer × Service :=
  let tried : Except Failure (Hosted × Attempt) := do
    let h ← s.hostedFor id r.player
    return (h, ← attempt h r)
  match tried with
  | .error f => (.error f, s)
  | .ok (h, a) =>
    match committed? r a with
    | some g =>
      ((({ h with game := g } : Hosted).summary id).map fun summary => ⟨a, true, summary⟩,
        s.withGame id h g)
    | none => ((h.summary id).map fun summary => ⟨a, false, summary⟩, s)

end Service

end Terraforming
