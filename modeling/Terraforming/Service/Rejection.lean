import Terraforming.Catalog.Corporate
import Terraforming.Wire.Snapshot

/-!
# Rejections

Why the service does not do what it is asked.  A rejection is an answer like any other, with a code
for programs and a message for people.  What breaks down inside is no rejection: a failure that is
`broken` never comes with an answer.
-/

namespace Terraforming

/-! ## Codes -/

inductive RejectionCode where
  | gameNotFound
  | unknownCard
  /-- The operation would corrupt the game. -/
  | notPermitted
  | invalid
deriving DecidableEq, Repr

namespace RejectionCode

def word : RejectionCode → String
  | gameNotFound => "GAME_NOT_FOUND"
  | unknownCard => "UNKNOWN_CARD"
  | notPermitted => "NOT_PERMITTED"
  | invalid => "VALIDATION_ERROR"

/-- The status that an answer with the code carries. -/
def status : RejectionCode → Nat
  | gameNotFound => 404
  | unknownCard => 400
  | notPermitted => 409
  | invalid => 422

end RejectionCode

/-! ## Rejections -/

inductive Rejection where
  | gameNotFound (id : String)
  | unknownPlayer (player : PlayerId)
  | unknownCatalog (name : String)
  /-- A name that the catalog of the game does not list. -/
  | unknownCard (name : String)
  /-- A name that a catalog was asked to resolve and does not list. -/
  | unresolved (message : String)
  | incompleteLocation
  | notOnBoard (l : Location)
  | misuse (m : Misuse)
  | violation (v : Violation)

namespace Rejection

def code : Rejection → RejectionCode
  | gameNotFound _ => .gameNotFound
  | unknownCard _ | unresolved _ => .unknownCard
  | violation _ => .notPermitted
  | unknownPlayer _ | unknownCatalog _ | incompleteLocation | notOnBoard _ | misuse _ => .invalid

def message : Rejection → String
  | gameNotFound id => "Game " ++ id ++ " not found"
  | unknownPlayer p => (Misuse.unknownPlayer p).message
  | unknownCatalog name => "Unknown catalog '" ++ name ++ "'"
  | unknownCard name => "Unknown card '" ++ name ++ "'"
  | unresolved message => message
  | incompleteLocation => "A location needs x and y, or a special location"
  | notOnBoard l => l.text ++ " is not on the board"
  | misuse m => m.message
  | violation v => v.message

/-- What else there is to say: the catalogs that there are, if one is not known. -/
def details : Rejection → Json
  | unknownCatalog _ =>
    .object [("available", .strings ((Catalog.builtin.map (·.name)).mergeSort (· ≤ ·)))]
  | _ => .null

end Rejection

/-- Why there is no answer of the kind that was asked for. -/
inductive Failure where
  | rejected (r : Rejection)
  | broken (e : SnapshotError)

namespace Failure

def ofFault (f : Fault) : Failure := .broken (.fault f)

end Failure

end Terraforming
