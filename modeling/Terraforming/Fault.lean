import Terraforming.Board.Location
import Terraforming.Board.Tile
import Terraforming.Card.Impact
import Terraforming.Game.OperationType
import Terraforming.Text.Numeral
import Terraforming.Text.Utf8

/-!
# Faults

Why a computation stops without an answer.  What the rules of the game forbid is never a fault: a
move that is not permitted is refused with a reason.  A fault is an operation that would corrupt
the game (a violation), an argument that makes no sense (a misuse), a placement bonus that would
need a decision, or a value that a card or a file left out or got wrong.
-/

namespace Terraforming

/-- An operation, or the contents of a board, that would corrupt the game. -/
inductive Violation where
  | occupiedTwice (l : Location)
  | offBoard (l : Location)
  | excessOceans (count : Nat)
  | oxygenOutOfRange (oxygen : Int)
  | temperatureOutOfRange (temperature : Int)
  | alreadyOccupied (l : Location) (by_ : Tile)
  | onlyCitiesOffMars (kind : TileKind)
  | oceansExhausted
  | emptyTile
  | temperatureAtMaximum
  | oxygenAtMaximum
  | missingFields (type : OperationType) (fields : List String)
  | negativeBalance (player : PlayerId) (balance : Int) (resource : Resource)
  | belowProductionFloor (player : PlayerId) (resource : Resource) (level : Int)
  | negativeAfterProduction (player : PlayerId) (balance : Int) (resource : Resource)
  | noSuchCard (player : PlayerId) (instanceId : Int)
  | cannotHold (card : String) (kind : CardResource)
  | negativeCardResource (card : String) (amount : Int) (kind : CardResource)
  | negativeDraw (count : Int)
  | tooFewCards (count : Int) (deck discard : Nat)
  | notInHand (card : String) (player : PlayerId)
  | cannotPayForCards (player : PlayerId) (price count : Nat)
  | instanceInUse (instanceId : Int)
  | effectSourceMissing (instanceId : Option Int)
  | noActions (instanceId : Int)
  | actionUsed (card : String)
  | unknownMilestone (name : String)
  | milestoneClaimed (name : String)
  | milestonesExhausted
  | unknownAward (name : String)
  | awardFunded (name : String)
  | awardsExhausted
deriving DecidableEq, Repr

/-- The most oceans a board can hold. -/
def maxOceans : Nat := 9

/-- How a message shows a number that may not be given. -/
def optionalText : Option Int → String
  | some n => toString n
  | none => "None"

namespace Violation

def message : Violation → String
  | occupiedTwice l => "Location " ++ l.text ++ " is occupied twice"
  | offBoard l => "Location " ++ l.text ++ " is not on the board"
  | excessOceans n =>
    toString n ++ " oceans exceed the maximum of " ++ toString maxOceans
  | oxygenOutOfRange o => "Oxygen " ++ toString o ++ " out of range"
  | temperatureOutOfRange t => "Temperature " ++ toString t ++ " out of range"
  | alreadyOccupied l t =>
    "Location " ++ l.text ++ " is already occupied by " ++ t.text?.getD t.kind.word
  | onlyCitiesOffMars kind => "Only cities can be placed off Mars, got " ++ kind.word
  | oceansExhausted => "All oceans are already placed"
  | emptyTile => "Cannot place an empty tile"
  | temperatureAtMaximum => "Temperature is already at its maximum"
  | oxygenAtMaximum => "Oxygen is already at its maximum"
  | missingFields type fields =>
    type.word ++ " operation is missing " ++ ", ".intercalate fields
  | negativeBalance p n r =>
    "Player " ++ toString p ++ " would have " ++ toString n ++ " " ++ r.word
  | belowProductionFloor p r n =>
    "Player " ++ toString p ++ " " ++ r.word ++ " production would drop to " ++ toString n
  | negativeAfterProduction p n r =>
    "Player " ++ toString p ++ " would end with " ++ toString n ++ " " ++ r.word
  | noSuchCard p i => "Player " ++ toString p ++ " has no card #" ++ toString i
  | cannotHold card kind => card ++ " cannot hold " ++ kind.word ++ " resources"
  | negativeCardResource card n kind =>
    card ++ " would hold " ++ toString n ++ " " ++ kind.word
  | negativeDraw n => "Cannot draw " ++ toString n ++ " cards"
  | tooFewCards n deck discard =>
    "Cannot draw " ++ toString n ++ " cards: " ++ toString deck ++ " in deck, " ++
      toString discard ++ " in discard pile"
  | notInHand card p => card ++ " is not in player " ++ toString p ++ "'s hand"
  | cannotPayForCards p price n =>
    "Player " ++ toString p ++ " cannot pay " ++ toString price ++ " MC for " ++ toString n ++
      " cards"
  | instanceInUse i => "Instance id " ++ toString i ++ " is already in use"
  | effectSourceMissing i => "Effect source #" ++ optionalText i ++ " is not in play"
  | noActions i => "Card #" ++ toString i ++ " has no actions"
  | actionUsed card => card ++ " was already used this generation"
  | unknownMilestone name => "Unknown milestone '" ++ name ++ "'"
  | milestoneClaimed name => name ++ " is already claimed"
  | milestonesExhausted => "All milestones are claimed"
  | unknownAward name => "Unknown award '" ++ name ++ "'"
  | awardFunded name => name ++ " is already funded"
  | awardsExhausted => "All awards are funded"

end Violation

/-- An argument that makes no sense. -/
inductive Misuse where
  | unknownPlayer (player : PlayerId)
  | duplicatePlayer (player : PlayerId)
  | eventTagsNotCounted
  | negativeStart (resource : Resource) (amount : Int)
  | notInPlay (card : String)
  | tooManyOffered (count : Nat)
  | unsupportedVersion (version : Int)
  /-- Bytes that are no text. -/
  | undecodable (u : Text.Undecodable)
  /-- A number that is too long to be shown. -/
  | excessDigits
deriving DecidableEq, Repr

/-- The most cards that can be offered for one generation. -/
def maxOffered : Nat := 10

namespace Misuse

def message : Misuse → String
  | unknownPlayer p => "Unknown player " ++ toString p
  | duplicatePlayer p => "Duplicate player id " ++ toString p
  | eventTagsNotCounted => "Event tags are not counted as active tags; use event_count()"
  | negativeStart r n => "Negative starting " ++ r.word ++ ": " ++ toString n
  | notInPlay card => "'" ++ card ++ "' is not in play"
  | tooManyOffered n =>
    "At most " ++ toString maxOffered ++ " cards can be offered, got " ++ toString n
  | unsupportedVersion v => "Unsupported snapshot version " ++ toString v
  | undecodable u => u.message
  | excessDigits =>
    "Exceeds the limit (" ++ toString Text.maxDigits ++ " digits) for integer string conversion; " ++
      "use sys.set_int_max_str_digits() to increase the limit"

end Misuse

inductive Fault where
  | violation (v : Violation)
  | misuse (m : Misuse)
  /-- A placement bonus that cannot be settled without a decision, or is not permitted. -/
  | undecidedBonus (type : ImpactType)
  /-- A division by nothing: a divisor of zero on a card, or a worthless metal. -/
  | zeroDivisor
  /-- A name that the table it is looked up in does not list. -/
  | unlisted
  /-- A value that is needed was left unset. -/
  | unset
deriving DecidableEq, Repr

/-- What there is to say about a fault. -/
def Fault.message? : Fault → Option String
  | .violation v => some v.message
  | .misuse m => some m.message
  | .undecidedBonus t => some ("Placement bonus " ++ t.word ++ " needs a decision")
  | .zeroDivisor | .unlisted | .unset => none

end Terraforming
