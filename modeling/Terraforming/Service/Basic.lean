import Terraforming.Player.Setup
import Terraforming.Service.Request

/-!
# The service

The service keeps games by their ids.  Where the ids come from is left open: a new game gets the next
one of a supply, which should not give one twice.  Every method answers with a result or a failure;
those that change something also answer with the service as it is afterwards.
-/

namespace Terraforming

/-- A game that the service keeps, and the catalog that its cards are named from. -/
structure Hosted where
  catalog : Catalog
  game : Game

/-- Ids that are counted up: the one of the game created after `n` others. -/
def Service.idOf (n : Nat) : String :=
  let digits := toString (n + 1)
  "game" ++ String.ofList (List.replicate (8 - digits.length) '0') ++ digits

structure Service where
  games : Table String Hosted := ∅
  /-- How many games were created. -/
  created : Nat := 0
  /-- The id of the game created after so many others. -/
  supply : Nat → String := Service.idOf
  /-- The catalog of games that ask for none. -/
  usual : Catalog := .base

/-- A game in short. -/
structure GameSummary where
  id : String
  hosted : Hosted
  /-- What every player would score. -/
  points : List (PlayerId × Int)

namespace Service

/-! ## Looking games up -/

/-- The ids of the games, ascending. -/
def ids (s : Service) : List String := s.games.keys

def hosted (s : Service) (id : String) : Except Failure Hosted :=
  match s.games.get? id with
  | some h => .ok h
  | none => .error (.rejected (.gameNotFound id))

/-- A hosted game that a player takes part in. -/
def hostedFor (s : Service) (id : String) (p : PlayerId) : Except Failure Hosted := do
  let h ← s.hosted id
  if (h.game.player? p).isNone then throw (.rejected (.unknownPlayer p))
  return h

/-- The service with a game where it was. -/
def withGame (s : Service) (id : String) (h : Hosted) (g : Game) : Service :=
  { s with games := s.games.insert id { h with game := g } }

end Service

/-- A fault on the way to an answer breaks the answer. -/
def unbroken {α : Type} (e : Except Fault α) : Except Failure α := e.mapError .ofFault

def Hosted.summary (h : Hosted) (id : String) : Except Failure GameSummary := do
  return ⟨id, h, ← unbroken h.game.scores⟩

namespace Service

def summary (s : Service) (id : String) : Except Failure GameSummary := do
  (← s.hosted id).summary id

/-! ## Creating games -/

/-- The cards of some names. -/
def resolve (c : Catalog) (names : List String) : Except Failure (List Card) :=
  (c.resolve names).mapError fun message => .rejected (.unresolved message)

/-- The player of a seat. -/
def seated (c : Catalog) (solo : Bool) (s : Seat) : Except Failure Player := do
  let setup : PlayerSetup :=
    { id := s.player
      solo
      resources := s.resources
      megacredits := some (s.megacredits : Int)
      production := s.production
      hand := ← resolve c s.hand
      played := ← resolve c s.played
      rating := s.rating }
  setup.player.mapError fun m => .ofFault (.misuse m)

/-- The cards of a catalog that no seat names, shuffled. -/
def deckFor (c : Catalog) (r : NewGame) : List Card :=
  let dealt := r.seats.flatMap fun s => s.hand ++ s.played
  (Generator.ofNumber r.seed).shuffle (c.cards.filter fun card => card.name ∉ dealt)

/-- The catalog that a new game asks for. -/
def catalogFor (s : Service) (r : NewGame) : Except Failure Catalog :=
  match r.catalog.filter (· ≠ "") with
  | none => .ok s.usual
  | some name =>
    match Catalog.builtin? name with
    | some c => .ok c
    | none => .error (.rejected (.unknownCatalog name))

/-- The game that is asked for. -/
def newGame (s : Service) (r : NewGame) : Except Failure Hosted := do
  let catalog ← s.catalogFor r
  let players ← r.seats.mapM (seated catalog (r.seats.length = 1))
  let game ← (Game.new players .standard (deckFor catalog r) r.seed).mapError
    fun m => .rejected (.misuse m)
  return { catalog, game }

def createGame (s : Service) (r : NewGame) : Except Failure GameSummary × Service :=
  match s.newGame r with
  | .error f => (.error f, s)
  | .ok h =>
    let id := s.supply s.created
    (h.summary id, { s with games := s.games.insert id h, created := s.created + 1 })

/-- Forget a game. -/
def endGame (s : Service) (id : String) : Except Failure Unit × Service :=
  match s.hosted id with
  | .error f => (.error f, s)
  | .ok _ => (.ok (), { s with games := s.games.filterKeys (· ≠ id) })

end Service

end Terraforming
