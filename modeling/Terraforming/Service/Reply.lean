import Terraforming.Service.Address
import Terraforming.Service.Response

/-!
# Replies

How a request is answered: with a status and a body, or not at all.  What is wrong with a request
is listed with the path to where it is.  Such a list is sent with the values it is about, and so
there is none if one of them cannot be sent.
-/

namespace Terraforming

namespace Json

mutual

/-- Whether every number in a value is finite. -/
def isFinite : Json → Bool
  | decimal m e => Wire.Rounded.ofDecimal m e ≠ .infinite
  | notFinite => false
  | array xs => allFinite xs
  | object ms => membersFinite ms
  | _ => true

def allFinite : List Json → Bool
  | [] => true
  | x :: xs => x.isFinite && allFinite xs

def membersFinite : List (String × Json) → Bool
  | [] => true
  | (_, x) :: ms => x.isFinite && membersFinite ms

end

/-- What names and numbers lead to. -/
def at? : List String → Json → Option Json
  | [], j => some j
  | name :: path, object ms => (member? name ms).bind (at? path)
  | name :: path, array xs => (name.toNat?.bind (xs[·]?)).bind (at? path)
  | _ :: _, _ => none

end Json

/-- The value that a problem is about: of a field that is missing, the record without it. -/
def Problem.value? (p : Problem) (j : Json) : Option Json :=
  j.at? (if p.issue = .missing then p.path.dropLast else p.path)

inductive Reply where
  | answered (status : Nat) (body : Json)
  /-- There is no answer. -/
  | broken (e : SnapshotError)
  /-- The answer holds a number that cannot be sent. -/
  | unsendable
  /-- The request leads nowhere. -/
  | misaddressed (e : AddressError)

namespace Reply

/-- An answer with a remark only. -/
def remark (status : Nat) (text : String) : Reply :=
  .answered status (.object [("detail", .string text)])

def notFound : Reply := remark 404 "Not Found"

def methodNotAllowed : Reply := remark 405 "Method Not Allowed"

/-- The answer to a body that is out of all bounds. -/
def excessiveBody : Reply := remark 400 "There was an error parsing the body"

def unsendableMessage : String := "Out of range float values are not JSON compliant"

/-- A problem as its path and its word. -/
def problemJson (p : Problem) : Json :=
  .strings [".".intercalate p.path, p.issue.word]

/-- An answer to a request that cannot be read, with problems in one part of it. -/
def unreadable (part : String) (ps : List Problem) : Reply :=
  .answered 422 (.object [("detail",
    .array (ps.map fun p => problemJson { p with path := part :: p.path }))])

/-- An answer to a body with problems. -/
def unreadableBody (body : Json) (ps : List Problem) : Reply :=
  if ps.all fun p => (p.value? body).all Json.isFinite then unreadable "body" ps else .unsendable

def ofFailure : Failure → Reply
  | .rejected r => .answered r.code.status r.json
  | .broken e => .broken e

def ofResult {α : Type} (json : α → Json) : Except Failure α → Reply
  | .ok a => .answered 200 (json a)
  | .error f => ofFailure f

end Reply

end Terraforming
