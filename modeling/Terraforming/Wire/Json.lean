import Terraforming.Text.Quoted

/-!
# JSON

Values as they are written: integers of any size, decimals kept as written, and objects as lists of
members in order.  Of several members with one name, the last one counts.  Two things are let
through that have no value: a number that is not finite, and a text that is not made of characters.
-/

namespace Terraforming

inductive Json where
  | null
  | bool (b : Bool)
  | int (n : Int)
  /-- A number written with a fraction or an exponent: `mantissa * 10 ^ exponent`. -/
  | decimal (mantissa exponent : Int)
  /-- Where a number should be: none, or one that is endless. -/
  | notFinite
  | string (s : String)
  /-- A text with half of a pair of escapes that stand for one character together. -/
  | garbled
  | array (xs : List Json)
  | object (members : List (String × Json))
deriving Inhabited

namespace Json

/-! ## Reading -/

/-- The last member with a name. -/
def member? (name : String) (members : List (String × Json)) : Option Json :=
  members.foldl (fun found m => if m.1 == name then some m.2 else found) none

def get? (name : String) : Json → Option Json
  | object ms => member? name ms
  | _ => none

/-! ## Building -/

/-- A member that may be missing. -/
def optional {α : Type} (f : α → Json) : Option α → Json
  | some a => f a
  | none => null

def nat (n : Nat) : Json := int n

def strings (ss : List String) : Json := array (ss.map string)

/-- The object with every member of a name changed. -/
def mapMember (name : String) (f : Json → Json) : Json → Json
  | object ms => object (ms.map fun m => if m.1 == name then (m.1, f m.2) else m)
  | j => j

/-! ## Writing -/

/-- Sixteen bits as an escape. -/
def escape16 (n : Nat) : String := "\\u" ++ Text.hex 4 n

/-- A character between quotes, with nothing but printable ASCII. -/
def charText (c : Char) : String :=
  if c = '"' then "\\\""
  else if c = '\\' then "\\\\"
  else if c = '\n' then "\\n"
  else if c = '\r' then "\\r"
  else if c = '\t' then "\\t"
  else if c.toNat = 8 then "\\b"
  else if c.toNat = 12 then "\\f"
  else if 0x20 ≤ c.toNat && c.toNat < 0x7f then c.toString
  else if c.toNat < 0x10000 then escape16 c.toNat
  else
    let n := c.toNat - 0x10000
    escape16 (0xd800 + n / 0x400) ++ escape16 (0xdc00 + n % 0x400)

def stringText (s : String) : String := "\"" ++ String.join (s.toList.map charText) ++ "\""

def decimalText (mantissa exponent : Int) : String :=
  toString mantissa ++ "e" ++ toString exponent

def notFiniteText : String := "NaN"

def garbledText : String := "\"\\ud800\""

mutual

/-- The value on one line. -/
def text : Json → String
  | null => "null"
  | bool b => if b then "true" else "false"
  | int n => toString n
  | decimal m e => decimalText m e
  | notFinite => notFiniteText
  | string s => stringText s
  | garbled => garbledText
  | array xs => "[" ++ ",".intercalate (textAll xs) ++ "]"
  | object ms => "\x7b" ++ ",".intercalate (textMembers ms) ++ "\x7d"

def textAll : List Json → List String
  | [] => []
  | x :: xs => text x :: textAll xs

def textMembers : List (String × Json) → List String
  | [] => []
  | (name, x) :: ms => (stringText name ++ ":" ++ text x) :: textMembers ms

end

/-- A new line, `depth` steps of two blanks in. -/
def newLine (depth : Nat) : String := "\n" ++ String.ofList (List.replicate (2 * depth) ' ')

/-- Lines one step further in, between brackets. -/
def block (depth : Nat) (opening closing : String) (lines : List String) : String :=
  if lines.isEmpty then opening ++ closing
  else opening ++ newLine (depth + 1) ++ ("," ++ newLine (depth + 1)).intercalate lines ++
    newLine depth ++ closing

mutual

/-- The value over several lines, with members in order of name. -/
def indented (depth : Nat) : Json → String
  | array xs => block depth "[" "]" (indentedAll (depth + 1) xs)
  | object ms =>
    block depth "\x7b" "\x7d" (((indentedMembers (depth + 1) ms).mergeSort (·.1 ≤ ·.1)).map
      fun m => stringText m.1 ++ ": " ++ m.2)
  | null => "null"
  | bool b => if b then "true" else "false"
  | int n => toString n
  | decimal m e => decimalText m e
  | notFinite => notFiniteText
  | string s => stringText s
  | garbled => garbledText

def indentedAll (depth : Nat) : List Json → List String
  | [] => []
  | x :: xs => indented depth x :: indentedAll depth xs

def indentedMembers (depth : Nat) : List (String × Json) → List (String × String)
  | [] => []
  | (name, x) :: ms => (name, indented depth x) :: indentedMembers depth ms

end

end Json

end Terraforming
