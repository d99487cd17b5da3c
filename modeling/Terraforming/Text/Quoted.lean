import Terraforming.Text.Visible

/-!
# Quoted text

A text between quotes that shows where it begins and ends and what is hidden in it.  Single quotes
stand around it, unless it holds a single quote and no double quote.  A backslash and the quote in
use are escaped, and so is every character without a visible form.
-/

namespace Terraforming.Text

/-- `n` in lower-case hexadecimal, padded with zeros to `width` digits. -/
def hex (width n : Nat) : String :=
  let digits := Nat.toDigits 16 n
  String.ofList (List.replicate (width - digits.length) '0' ++ digits)

/-- The quote to put around a text. -/
def quoteFor (s : String) : Char :=
  if s.contains '\'' && !s.contains '"' then '"' else '\''

/-- A character as it stands between two `quote`s. -/
def quotedChar (quote c : Char) : String :=
  if c = quote || c = '\\' then "\\" ++ c.toString
  else if c = '\n' then "\\n"
  else if c = '\r' then "\\r"
  else if c = '\t' then "\\t"
  else if isVisible c then c.toString
  else if c.toNat < 0x100 then "\\x" ++ hex 2 c.toNat
  else if c.toNat < 0x10000 then "\\u" ++ hex 4 c.toNat
  else "\\U" ++ hex 8 c.toNat

def quoted (s : String) : String :=
  let quote := (quoteFor s).toString
  quote ++ String.join (s.toList.map (quotedChar (quoteFor s))) ++ quote

/-- Quoted texts in brackets. -/
def quotedList (ss : List String) : String :=
  "[" ++ ", ".intercalate (ss.map quoted) ++ "]"

end Terraforming.Text
