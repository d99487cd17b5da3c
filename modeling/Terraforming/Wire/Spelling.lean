import Terraforming.Text.Numeral

/-!
# Spelled integers

An integer may stand on the wire as a text: digits with a sign in front and blanks around.  Single
underscores may stand between the digits, zeros in front of them, and a point with zeros behind
them.  All of that is cleared away until a plain numeral is left, or it is none.
-/

namespace Terraforming.Wire

/-- What a text spells. -/
inductive Spelled where
  | number (n : Int)
  /-- A number with too many digits. -/
  | tooLong
  | noNumber
deriving DecidableEq, Repr

namespace Spelled

def isNonzeroDigit (c : Char) : Bool := c.isDigit && c ≠ '0'

/-- A numeral without the zeros in front, and without the underscores between those.  The last of
them stays if nothing or a point follows.  Zeros behind a minus sign are no such zeros. -/
def withoutZeros? : List Char → Option (List Char)
  | '0' :: cs =>
    let isFiller (c : Char) : Bool := c = '0' || c = '_'
    let last := ('0' :: cs.takeWhile isFiller).getLast?
    match cs.dropWhile isFiller with
    | [] => last.map ([·])
    | '.' :: rest => last.map (· :: '.' :: rest)
    | c :: rest => if isNonzeroDigit c then some (c :: rest) else none
  | c :: cs => if isNonzeroDigit c || c = '-' then some (c :: cs) else none
  | [] => none

/-- A numeral without a point and the zeros behind it. -/
def withoutPoint (cs : List Char) : List Char :=
  match cs.span (· ≠ '.') with
  | (whole, _ :: zeros) => if !zeros.isEmpty && zeros.all (· = '0') then whole else cs
  | _ => cs

/-- A numeral without underscores, if each of them stands alone between two other characters. -/
def withoutUnderscores (cs : List Char) : List Char :=
  let groups := cs.splitOn '_'
  if groups.any List.isEmpty then cs else groups.flatten

/-- The plain numeral that a text comes down to. -/
def cleared? (s : String) : Option (List Char) := do
  let cs ← match Text.trim s.toList with
    | '+' :: '-' :: _ => none
    | '+' :: cs => some cs
    | cs => some cs
  return withoutUnderscores (withoutPoint (← withoutZeros? cs))

/-- The value of digits, of which there may be at most `most`. -/
def ofDigits (most : Nat) (cs : List Char) : Spelled :=
  let digits := cs.takeWhile Char.isDigit
  if digits = ['0'] && cs.length = 1 then number 0
  else if !(digits.head?.any isNonzeroDigit) then noNumber
  else if most < digits.length then tooLong
  else if digits.length < cs.length then noNumber
  else number (Text.digitsValue digits)

def neg : Spelled → Spelled
  | number n => number (-n)
  | r => r

def ofText (s : String) : Spelled :=
  match cleared? s with
  | none => noNumber
  | some ('-' :: cs) => (ofDigits (Text.maxDigits - 1) cs).neg
  | some cs => ofDigits Text.maxDigits cs

end Spelled

end Terraforming.Wire
