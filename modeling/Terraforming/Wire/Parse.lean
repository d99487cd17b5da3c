import Terraforming.Wire.Json
import Terraforming.Wire.Limits

/-!
# Parsing JSON

A text is JSON when it is one value with blanks around it.  Every step takes a character, so the
length of the text bounds the steps.  Files are read strictly, and what is sent is read leniently:
the two differ in how the digits of a number are counted, and in what becomes of names that come twice
and of texts that are no texts.  How deep values may be nested and how long numbers may be is up to the
limits of the reader.
-/

namespace Terraforming.Json

open Text (digitsValue hexDigit?)

/-! ## Dialects -/

inductive Dialect where
  | strict
  | lenient
deriving DecidableEq, Repr

/-- Why a text is not read. -/
inductive Unread where
  /-- It is not JSON. -/
  | malformed
  /-- It is nested too deep, or a number in it is too long. -/
  | excessive
deriving DecidableEq, Repr

namespace Dialect

/-- The limits that were found for texts of the dialect. -/
def limits : Dialect → Limits
  | strict => .files
  | lenient => .sent

/-- Whether a number has more digits in front of its point than it may have; `signed` says that it has
a minus sign, which the strict dialect counts, and `plain` that it has neither a fraction nor an
exponent, without which the lenient dialect does not count. -/
def refusesDigits (most : Nat) (signed plain : Bool) (digits : Nat) : Dialect → Bool
  | strict => most < digits + signed.toNat
  | lenient => plain && most < digits

/-- The members of an object.  Of several with one name, the lenient dialect keeps the place of the
first and the value of the last. -/
def collect (members : List (String × Json)) : Dialect → List (String × Json)
  | strict => members
  | lenient => members.foldl (fun merged m =>
    if merged.any (·.1 == m.1) then merged.map fun e => if e.1 == m.1 then m else e
    else merged ++ [m]) []

end Dialect

/-- A result with what comes behind it. -/
abbrev WithRest (α : Type) := α × List Char

def malformed {α : Type} : Except Unread (WithRest α) := .error .malformed

def isSpace (c : Char) : Bool := c = ' ' || c = '\t' || c = '\n' || c = '\r'

def skipSpaces (cs : List Char) : List Char := cs.dropWhile isSpace

/-! ## Strings -/

def hex4? (a b c d : Char) : Option Nat := do
  return (((← hexDigit? a) * 16 + (← hexDigit? b)) * 16 + (← hexDigit? c)) * 16 + (← hexDigit? d)

/-- The character that a one-letter escape stands for. -/
def escaped? (c : Char) : Option Char :=
  match c with
  | '"' => some '"'
  | '\\' => some '\\'
  | '/' => some '/'
  | 'b' => some (Char.ofNat 8)
  | 'f' => some (Char.ofNat 12)
  | 'n' => some '\n'
  | 'r' => some '\r'
  | 't' => some '\t'
  | _ => none

/-- The first half of a pair of escapes that stand for one character together. -/
def isHigh (n : Nat) : Bool := 0xd800 ≤ n && n < 0xdc00

def isLow (n : Nat) : Bool := 0xdc00 ≤ n && n < 0xe000

/-- What was read of a string. -/
structure Scanned where
  /-- The characters, last first. -/
  read : List Char := []
  /-- The first half of a pair that is still open. -/
  high : Option Nat := none
  /-- Whether a half stood alone. -/
  broken : Bool := false

namespace Scanned

/-- The character that stands where half of a pair stood alone. -/
def replacement : Char := '\ufffd'

/-- No second half follows. -/
def settle (s : Scanned) : Scanned :=
  if s.high.isSome then { read := replacement :: s.read, broken := true } else s

def char (s : Scanned) (c : Char) : Scanned :=
  let s := s.settle
  { s with read := c :: s.read }

/-- Sixteen bits follow, with no first half open in front of them. -/
def single (s : Scanned) (n : Nat) : Scanned :=
  if isHigh n then { s with high := some n }
  else if isLow n then { s with read := replacement :: s.read, broken := true }
  else { s with read := Char.ofNat n :: s.read }

/-- Sixteen bits follow. -/
def unit (s : Scanned) (n : Nat) : Scanned :=
  match s.high with
  | some h =>
    if isLow n then
      { s with
        read := Char.ofNat (0x10000 + (h - 0xd800) * 0x400 + (n - 0xdc00)) :: s.read
        high := none }
    else s.settle.single n
  | none => s.single n

def text (s : Scanned) : String := String.ofList s.read.reverse

end Scanned

/-- The rest of a string behind its opening quote. -/
def stringRest (d : Dialect) (s : Scanned) : List Char → Except Unread (WithRest Scanned)
  | [] => malformed
  | '"' :: cs =>
    let s := s.settle
    if s.broken && d = .strict then malformed else .ok (s, cs)
  | '\\' :: 'u' :: a :: b :: c :: e :: cs =>
    match hex4? a b c e with
    | none => malformed
    | some n => stringRest d (s.unit n) cs
  | '\\' :: c :: cs =>
    match escaped? c with
    | some e => stringRest d (s.char e) cs
    | none => malformed
  | c :: cs => if c.toNat < 0x20 then malformed else stringRest d (s.char c) cs

/-- The value of a string. -/
def ofScanned (s : Scanned) : Json := if s.broken then .garbled else .string s.text

/-! ## Numbers -/

/-- The digits at the front. -/
def digits (cs : List Char) : List Char × List Char := cs.span Char.isDigit

/-- A fraction at the front, without its point; no digits where there is no point. -/
def fraction : List Char → Except Unread (WithRest (List Char))
  | '.' :: cs =>
    match digits cs with
    | ([], _) => malformed
    | (ds, rest) => .ok (ds, rest)
  | cs => .ok ([], cs)

/-- The digits of an exponent, with its sign. -/
def signedDigits (negative : Bool) (cs : List Char) : Except Unread (WithRest (Option Int)) :=
  match digits cs with
  | ([], _) => malformed
  | (ds, rest) => .ok (some (if negative then -digitsValue ds else digitsValue ds), rest)

/-- An exponent at the front, if there is one. -/
def exponent : List Char → Except Unread (WithRest (Option Int))
  | 'e' :: '-' :: cs | 'E' :: '-' :: cs => signedDigits true cs
  | 'e' :: '+' :: cs | 'E' :: '+' :: cs => signedDigits false cs
  | 'e' :: cs | 'E' :: cs => signedDigits false cs
  | cs => .ok (none, cs)

/-- A number without its sign, with at most `most` digits in front of its point. -/
def number (d : Dialect) (most : Nat) (negative : Bool) (cs : List Char) :
    Except Unread (WithRest Json) := do
  let (whole, cs) := digits cs
  if whole.isEmpty || (whole.head? = some '0' && whole.length ≠ 1) then throw .malformed
  let (fraction, cs) ← fraction cs
  let (exponent, cs) ← exponent cs
  let plain := fraction.isEmpty && exponent.isNone
  if d.refusesDigits most negative plain whole.length then throw .excessive
  let sign : Int := if negative then -1 else 1
  let mantissa := sign * digitsValue (whole ++ fraction)
  if plain then return (.int mantissa, cs)
  return (.decimal mantissa (exponent.getD 0 - fraction.length), cs)

/-! ## Values -/

/-- Words that stand for values. -/
def words : List (String × Json) :=
  [("null", .null), ("true", .bool true), ("false", .bool false), ("NaN", .notFinite),
    ("Infinity", .notFinite), ("-Infinity", .notFinite)]

/-- The value of a word at the front, if there is one, or else a number. -/
def wordOrNumber (d : Dialect) (most : Nat) (cs : List Char) : Except Unread (WithRest Json) :=
  match words.find? fun w => w.1.toList.isPrefixOf cs with
  | some (w, v) => .ok (v, cs.drop w.length)
  | none =>
    match cs with
    | '-' :: cs => number d most true cs
    | cs => number d most false cs

mutual

/-- A value at the front, in at most `steps` steps; arrays and objects with something in them may be
nested `depth` deep, and numbers may have `most` digits. -/
def value (d : Dialect) (most : Nat) : (steps depth : Nat) → List Char → Except Unread (WithRest Json)
  | 0, _, _ => malformed
  | n + 1, depth, cs =>
    match skipSpaces cs with
    | '"' :: cs => do
      let (s, cs) ← stringRest d {} cs
      return (ofScanned s, cs)
    | '[' :: cs =>
      match skipSpaces cs, depth with
      | ']' :: cs, _ => .ok (.array [], cs)
      | _, 0 => .error .excessive
      | cs, depth + 1 => elements d most n depth [] cs
    | '\x7b' :: cs =>
      match skipSpaces cs, depth with
      | '\x7d' :: cs, _ => .ok (.object [], cs)
      | _, 0 => .error .excessive
      | cs, depth + 1 => members d most n depth [] cs
    | cs => wordOrNumber d most cs

/-- The rest of an array that has at least one more element. -/
def elements (d : Dialect) (most : Nat) : (steps depth : Nat) → List Json → List Char →
    Except Unread (WithRest Json)
  | 0, _, _, _ => malformed
  | n + 1, depth, read, cs => do
    let (v, cs) ← value d most n depth cs
    match skipSpaces cs with
    | ',' :: cs => elements d most n depth (v :: read) cs
    | ']' :: cs => return (.array (v :: read).reverse, cs)
    | _ => malformed

/-- The rest of an object that has at least one more member. -/
def members (d : Dialect) (most : Nat) : (steps depth : Nat) → List (String × Json) → List Char →
    Except Unread (WithRest Json)
  | 0, _, _, _ => malformed
  | n + 1, depth, read, cs =>
    match skipSpaces cs with
    | '"' :: cs => do
      let (name, cs) ← stringRest d {} cs
      match skipSpaces cs with
      | ':' :: cs =>
        let (v, cs) ← value d most n depth cs
        match skipSpaces cs with
        | ',' :: cs => members d most n depth ((name.text, v) :: read) cs
        | '\x7d' :: cs => return (.object (d.collect ((name.text, v) :: read).reverse), cs)
        | _ => malformed
      | _ => malformed
    | _ => malformed

end

/-- The value of a text, if the text is JSON and within the limits. -/
def parse (d : Dialect) (s : String) (limits : Limits := d.limits) : Except Unread Json := do
  let cs := s.toList
  let (v, rest) ← value d limits.digits (cs.length + 1) limits.depth cs
  if (skipSpaces rest).isEmpty then return v else throw .malformed

/-- The value of a file, if it is JSON and within the limits. -/
def ofText? (s : String) (limits : Limits := .files) : Option Json :=
  (parse .strict s limits).toOption

end Terraforming.Json
