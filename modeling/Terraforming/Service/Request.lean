import Terraforming.Service.Rejection
import Terraforming.Turn.Play

/-!
# Requests

What can be sent to the service, and how it is read from JSON.  Cards are named, locations are
either a pair of coordinates or a named place, and decisions are answered in advance.
-/

namespace Terraforming

open Reader

/-! ## Limits -/

namespace Wire

/-- A list of at least so many values. -/
def atLeast {α : Type} (least : Nat) (r : Reader (List α)) : Reader (List α) := fun j =>
  (r j).andThen fun xs => if xs.length < least then .fail .tooShort else .ok xs

/-- A list of at most so many values; of a longer one, only the length is reported. -/
def atMost {α : Type} (most : Nat) (r : Reader (List α)) : Reader (List α) := fun j =>
  match j with
  | .array xs => if most < xs.length then .fail .tooLong else r j
  | _ => r j

/-- An integer that is not negative. -/
def readNat : Reader Nat := fun j =>
  (int j).andThen fun n => if n < 0 then .fail .tooSmall else .ok n.toNat

end Wire

/-! ## New games -/

/-- The starting position of a player in a new game. -/
structure Seat where
  player : PlayerId
  megacredits : Nat := 0
  resources : List (Resource × Int) := []
  production : List (Resource × Int) := []
  hand : List String := []
  played : List String := []
  rating : Option Int := none

structure NewGame where
  /-- The catalog to play with; without one, or with an empty name, the usual one. -/
  catalog : Option String := none
  seats : List Seat
  seed : Int := 0

def readSeat : Reader Seat :=
  record .attributesType fun ms =>
    Seat.mk <$> field ms "player_id" int
      <*> fieldOr ms "megacredits" 0 Wire.readNat
      <*> fieldOr ms "resources" [] Wire.readAmounts
      <*> fieldOr ms "production" [] Wire.readAmounts
      <*> fieldOr ms "hand" [] (list string)
      <*> fieldOr ms "played_cards" [] (list string)
      <*> fieldOption ms "terraform_rating" int

def readNewGame : Reader NewGame :=
  record .attributesType fun ms =>
    NewGame.mk <$> fieldOption ms "catalog" string
      <*> field ms "players" (Wire.atLeast 1 (list readSeat))
      <*> fieldOr ms "random_seed" 0 int

/-! ## Choices -/

/-- A location as it is sent. -/
structure SentLocation where
  x : Option Int := none
  y : Option Int := none
  site : Option Site := none
deriving DecidableEq

/-- The location that is meant.  A named place goes before coordinates. -/
def SentLocation.location : SentLocation → Except Rejection Location
  | ⟨_, _, some s⟩ => .ok (.offMars s)
  | ⟨some x, some y, none⟩ => .ok (.onMars ⟨x, y⟩)
  | _ => .error .incompleteLocation

/-- A choice as it is sent. -/
structure SentChoice where
  location : Option SentLocation := none
  player : Option PlayerId := none
  instanceId : Option Int := none
  option : Option Int := none
deriving DecidableEq

/-- The choice that is meant. -/
def SentChoice.choice (c : SentChoice) : Except Rejection Choice := do
  let location ← match c.location with
    | some l => some <$> l.location
    | none => pure none
  return { location, player := c.player, instanceId := c.instanceId, option := c.option }

def readSentLocation : Reader SentLocation :=
  record .attributesType fun ms =>
    SentLocation.mk <$> fieldOption ms "x" int <*> fieldOption ms "y" int
      <*> fieldOption ms "special" term

def readSentChoice : Reader SentChoice :=
  record .attributesType fun ms =>
    SentChoice.mk <$> fieldOption ms "location" readSentLocation
      <*> fieldOption ms "player_id" int
      <*> fieldOption ms "instance_id" int
      <*> fieldOption ms "option_index" int

/-! ## Moves -/

inductive Move where
  | playCard (name : String)
  | performAction (instanceId index : Int)
  | standardProject (project : StandardProject)

structure MoveRequest where
  player : PlayerId
  move : Move
  choices : List SentChoice := []
  /-- Whether the game goes on from where the move leads, if it is complete. -/
  commit : Bool := true

def readChoices (ms : Members) : Checked (List SentChoice) :=
  fieldOr ms "choices" [] (list readSentChoice)

def readCommit (ms : Members) : Checked Bool := fieldOr ms "commit" true flag

def readPlayCard : Reader MoveRequest :=
  record .attributesType fun ms =>
    (fun player name => MoveRequest.mk player (.playCard name)) <$> field ms "player_id" int
      <*> field ms "card_name" string
      <*> readChoices ms
      <*> readCommit ms

def readPerformAction : Reader MoveRequest :=
  record .attributesType fun ms =>
    (fun player instanceId index => MoveRequest.mk player (.performAction instanceId index)) <$>
      field ms "player_id" int
      <*> field ms "instance_id" int
      <*> fieldOr ms "action_index" 0 int
      <*> readChoices ms
      <*> readCommit ms

def readStandardProject : Reader MoveRequest :=
  record .attributesType fun ms =>
    (fun player project => MoveRequest.mk player (.standardProject project)) <$>
      field ms "player_id" int
      <*> field ms "project" term
      <*> readChoices ms
      <*> readCommit ms

/-! ## Operations and searches -/

def readOperationRequest (limits : Json.Limits) : Reader Operation :=
  record .attributesType fun ms => field ms "operation" (Wire.readOperation limits)

structure SearchRequest where
  player : PlayerId
  offered : List String := []
  allOrderings : Bool := false

def readSearchRequest : Reader SearchRequest :=
  record .attributesType fun ms =>
    SearchRequest.mk <$> field ms "player_id" int
      <*> fieldOr ms "offered_cards" [] (Wire.atMost maxOffered (list string))
      <*> fieldOr ms "all_orderings" false flag

end Terraforming
