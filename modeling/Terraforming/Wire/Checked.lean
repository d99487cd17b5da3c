import Terraforming.Data.Vocabulary
import Terraforming.Wire.Json
import Terraforming.Wire.Rounding
import Terraforming.Wire.Spelling

/-!
# Checked reading

Reading a value off JSON either succeeds or lists everything that is wrong with it, each problem
with the path to where it is.  The fields of a record are read independently of each other, so that
the problems of all of them are listed, in the order of the fields.
-/

namespace Terraforming

/-- What is wrong in one place. -/
inductive Issue where
  | missing
  | enumTerm
  | intParsing
  /-- A number is too large to be taken from where it stands. -/
  | intSize
  | intFromFraction
  | intType
  /-- There is no number, or an endless one. -/
  | notFinite
  | boolParsing
  | boolType
  | stringType
  /-- A text is not made of characters. -/
  | stringUnicode
  | listType
  | tupleType
  | setType
  | dictionaryType
  /-- A record should be here. -/
  | recordType
  /-- A record of a file format should be here. -/
  | modelType
  /-- A record of a request should be here. -/
  | attributesType
  | invalidJson
  /-- Values are nested too deep. -/
  | recursionLoop
  | tooShort
  | tooLong
  | tooSmall
  /-- The parts are fine, but they do not go together. -/
  | value (message : String)
deriving DecidableEq, Repr

namespace Issue

def word : Issue → String
  | missing => "missing"
  | enumTerm => "enum"
  | intParsing => "int_parsing"
  | intSize => "int_parsing_size"
  | intFromFraction => "int_from_float"
  | intType => "int_type"
  | notFinite => "finite_number"
  | boolParsing => "bool_parsing"
  | boolType => "bool_type"
  | stringType => "string_type"
  | stringUnicode => "string_unicode"
  | listType => "list_type"
  | tupleType => "tuple_type"
  | setType => "frozen_set_type"
  | dictionaryType => "dict_type"
  | recordType => "dataclass_type"
  | modelType => "model_type"
  | attributesType => "model_attributes_type"
  | invalidJson => "json_invalid"
  | recursionLoop => "recursion_loop"
  | tooShort => "too_short"
  | tooLong => "too_long"
  | tooSmall => "greater_than_equal"
  | value _ => "value_error"

/-- What there is to say about an issue beyond its word. -/
def message? : Issue → Option String
  | value message => some ("Value error, " ++ message)
  | _ => none

end Issue

/-- An issue, and the names and numbers that lead to it. -/
structure Problem where
  path : List String
  issue : Issue
deriving DecidableEq, Repr

/-- A value, or everything that is wrong with it. -/
inductive Checked (α : Type) where
  | ok (a : α)
  | bad (problems : List Problem)

namespace Checked

variable {α β : Type}

def map (f : α → β) : Checked α → Checked β
  | ok a => ok (f a)
  | bad ps => bad ps

/-- Apply one to the other; the problems of both are listed. -/
def apply : Checked (α → β) → Checked α → Checked β
  | ok f, ok a => ok (f a)
  | ok _, bad ps => bad ps
  | bad ps, ok _ => bad ps
  | bad ps, bad qs => bad (ps ++ qs)

instance : Applicative Checked where
  pure := ok
  map := map
  seq f a := apply f (a ())

/-- One problem, right here. -/
def fail (i : Issue) : Checked α := bad [⟨[], i⟩]

/-- Say under which name or number the problems are. -/
def under (name : String) : Checked α → Checked α
  | ok a => ok a
  | bad ps => bad (ps.map fun p => { p with path := name :: p.path })

/-- Go on with a value that is fine. -/
def andThen (f : α → Checked β) : Checked α → Checked β
  | ok a => f a
  | bad ps => bad ps

/-- Check what cannot be seen from one part alone. -/
def check (f : α → Except String β) (c : Checked α) : Checked β :=
  c.andThen fun a =>
    match f a with
    | .ok b => ok b
    | .error message => fail (.value message)

/-- All values of a list, or the problems of all of them. -/
def all : List (Checked α) → Checked (List α)
  | [] => ok []
  | c :: cs => List.cons <$> c <*> all cs

end Checked

/-- How a value is read. -/
abbrev Reader (α : Type) := Json → Checked α

namespace Reader

open Wire (Rounded Spelled)

variable {α β : Type}

/-! ## Numbers, flags and words -/

/-- Whether a number fits into 64 binary digits with a sign. -/
def isModerate (n : Int) : Bool := -0x8000000000000000 ≤ n && n < 0x8000000000000000

/-- The integer that a decimal stands for. -/
def ofRounded : Rounded → Checked Int
  | .infinite => .fail .notFinite
  | .fraction => .fail .intFromFraction
  | .whole n => if isModerate n && n ≠ -0x8000000000000000 then .ok n else .fail .intSize

def ofSpelled : Spelled → Checked Int
  | .number n => .ok n
  | .tooLong => .fail .intSize
  | .noNumber => .fail .intParsing

/-- An integer; also one that is spelled as text or written as a decimal, and a flag for 0 or 1. -/
def int : Reader Int
  | .int n => .ok n
  | .decimal m e => ofRounded (.ofDecimal m e)
  | .notFinite => .fail .notFinite
  | .bool b => .ok (if b then 1 else 0)
  | .string s => ofSpelled (.ofText s)
  | .garbled => .fail .stringUnicode
  | _ => .fail .intType

def trueWords : List String := ["1", "on", "t", "true", "y", "yes"]

def falseWords : List String := ["0", "off", "f", "false", "n", "no"]

/-- The flag that 0 or 1 stands for. -/
def ofNumber (n : Int) : Checked Bool :=
  if n = 1 then .ok true
  else if n = 0 then .ok false
  else if isModerate n then .fail .boolParsing
  else .fail .boolType

/-- A flag; also a word for one, and 0 or 1. -/
def flag : Reader Bool
  | .bool b => .ok b
  | .int n => ofNumber n
  | .decimal m e =>
    match ofRounded (.ofDecimal m e) with
    | .ok n => ofNumber n
    | .bad _ => .fail .boolType
  | .string s =>
    if trueWords.contains s.toLower then .ok true
    else if falseWords.contains s.toLower then .ok false
    else .fail .boolParsing
  | .garbled => .fail .stringUnicode
  | _ => .fail .boolType

def string : Reader String
  | .string s => .ok s
  | .garbled => .fail .stringUnicode
  | _ => .fail .stringType

/-- A term of a vocabulary, given by its word. -/
def term [Vocabulary α] : Reader α
  | .string s =>
    match Vocabulary.ofWord? s with
    | some a => .ok a
    | none => .fail .enumTerm
  | .garbled => .fail .stringUnicode
  | _ => .fail .enumTerm

/-- A value that may be left open. -/
def optional (r : Reader α) : Reader (Option α)
  | .null => .ok none
  | j => some <$> r j

/-! ## Collections -/

/-- Every element of a list, numbered from `start`. -/
def elements (r : Reader α) (start : Nat) : List Json → List (Checked α)
  | [] => []
  | x :: xs => (r x).under (toString start) :: elements r (start + 1) xs

/-- An array, or the issue of not being one. -/
def array (issue : Issue) (r : Reader α) : Reader (List α)
  | .array xs => .all (elements r 0 xs)
  | _ => .fail issue

def list (r : Reader α) : Reader (List α) := array .listType r

def tuple (r : Reader α) : Reader (List α) := array .tupleType r

/-- A member of a dictionary.  A bad name is reported under the name and once more in brackets. -/
def entry (key : Reader α) (r : Reader β) (m : String × Json) : Checked (α × β) :=
  Prod.mk <$> ((key (.string m.1)).under "[key]").under m.1 <*> (r m.2).under m.1

def dictionary (key : Reader α) (r : Reader β) : Reader (List (α × β))
  | .object ms => .all (ms.map (entry key r))
  | _ => .fail .dictionaryType

/-! ## Records -/

/-- The members of an object. -/
abbrev Members := List (String × Json)

/-- A record, or the issue of not being one. -/
def record (issue : Issue) (r : Members → Checked α) : Reader α
  | .object ms => r ms
  | _ => .fail issue

/-- A field that must be there. -/
def field (ms : Members) (name : String) (r : Reader α) : Checked α :=
  match Json.member? name ms with
  | some j => (r j).under name
  | none => Checked.under name (.fail .missing)

/-- A field that has a value when it is left out. -/
def fieldOr (ms : Members) (name : String) (d : α) (r : Reader α) : Checked α :=
  match Json.member? name ms with
  | some j => (r j).under name
  | none => .ok d

/-- A field that may be left out or left open. -/
def fieldOption (ms : Members) (name : String) (r : Reader α) : Checked (Option α) :=
  fieldOr ms name none (optional r)

end Reader

end Terraforming
