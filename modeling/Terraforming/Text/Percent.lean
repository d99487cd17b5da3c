import Terraforming.Text.Digit
import Terraforming.Text.Quoted

/-!
# Percent signs

A text in which any byte may stand as a percent sign and two hexadecimal digits.  What stands for
no character is replaced; a percent sign with something else behind it stands for itself.
-/

namespace Terraforming.Text

/-! ## Bytes -/

/-- The character that stands where bytes make none. -/
def replacement : Char := '\ufffd'

/-- A character of which some bytes are still to come: how many, in which range the next one has to
be, and the value of those that were read. -/
structure PartialChar where
  left : Nat
  low : Nat
  high : Nat
  value : Nat
deriving DecidableEq, Repr

/-- What the first byte of a character says, if more have to follow. -/
def PartialChar.ofLead? (b : Nat) : Option PartialChar :=
  if 0xc2 ≤ b && b ≤ 0xdf then some ⟨1, 0x80, 0xbf, b - 0xc0⟩
  else if 0xe0 ≤ b && b ≤ 0xef then
    some ⟨2, if b = 0xe0 then 0xa0 else 0x80, if b = 0xed then 0x9f else 0xbf, b - 0xe0⟩
  else if 0xf0 ≤ b && b ≤ 0xf4 then
    some ⟨3, if b = 0xf0 then 0x90 else 0x80, if b = 0xf4 then 0x8f else 0xbf, b - 0xf0⟩
  else none

/-- The characters that a first byte ends, and the one that it begins. -/
def firstByte (b : Nat) : List Char × Option PartialChar :=
  if b < 0x80 then ([Char.ofNat b], none)
  else match PartialChar.ofLead? b with
    | some p => ([], some p)
    | none => ([replacement], none)

/-- The characters that a byte ends, and the one that is still open behind it. -/
def nextByte (pending : Option PartialChar) (b : Nat) : List Char × Option PartialChar :=
  match pending with
  | none => firstByte b
  | some p =>
    if p.low ≤ b && b ≤ p.high then
      let value := p.value * 0x40 + (b - 0x80)
      if p.left = 1 then ([Char.ofNat value], none)
      else ([], some ⟨p.left - 1, 0x80, 0xbf, value⟩)
    else
      let (cs, next) := firstByte b
      (replacement :: cs, next)

/-- What becomes of a character that stays open. -/
def unfinished (pending : Option PartialChar) : List Char :=
  if pending.isSome then [replacement] else []

/-! ## Texts -/

/-- The text that is meant, behind a character that may still be open. -/
def percentDecodedAfter (pending : Option PartialChar) : List Char → List Char
  | [] => unfinished pending
  | '%' :: a :: b :: cs =>
    match hexDigit? a, hexDigit? b with
    | some h, some l =>
      let (done, next) := nextByte pending (16 * h + l)
      done ++ percentDecodedAfter next cs
    | _, _ =>
      let (done, next) := nextByte pending '%'.toNat
      done ++ percentDecodedAfter next (a :: b :: cs)
  | c :: cs =>
    if c.toNat < 0x80 then
      let (done, next) := nextByte pending c.toNat
      done ++ percentDecodedAfter next cs
    else unfinished pending ++ c :: percentDecodedAfter none cs

def percentDecoded (cs : List Char) : List Char := percentDecodedAfter none cs

/-- A byte as a percent sign and two digits. -/
def percentByte (b : UInt8) : String := "%" ++ hex 2 b.toNat

/-- A text with everything but plain letters and digits as percent signs and digits. -/
def percentEncoded (s : String) : String :=
  String.join (s.toList.map fun c =>
    if c.isAlphanum then c.toString
    else String.join (c.toString.toUTF8.toList.map percentByte))

end Terraforming.Text
