import Terraforming.Text.Blank
import Terraforming.Text.Digit

/-!
# Numerals

Integers as people spell them: decimal digits, with single underscores between them if that helps
to read them, a sign in front, and blanks around.
-/

namespace Terraforming.Text

/-- The number that decimal digits spell, the first of them the most significant. -/
def digitsValue (ds : List Char) : Nat := ds.foldl (fun n d => n * 10 + (d.toNat - '0'.toNat)) 0

/-- How many digits a numeral may have.  This is a guard that can be set or lifted from outside.  It
is heeded where a text is read as a number and where the command line prints one; the texts of refusals
and violations, the seeds of shuffles and saved games have their numbers at any length. -/
def maxDigits : Nat := 4300

/-- The digits of a numeral, with single underscores between them, and no more than it may have. -/
def digits? (cs : List Char) : Option Nat := do
  let groups := cs.splitOn '_'
  if groups.any List.isEmpty then failure
  let values ← groups.flatten.mapM digitValue?
  if maxDigits < values.length then failure
  return values.foldl (fun n d => n * 10 + d) 0

/-- The integer that a text spells, with digits of any script. -/
def integer? (s : String) : Option Int :=
  match trim s.toList with
  | '-' :: cs => (digits? cs).map fun n => -n
  | '+' :: cs => (digits? cs).map fun n => n
  | cs => (digits? cs).map fun n => n

end Terraforming.Text
