import Terraforming.Text.Percent

/-!
# Bytes as text

The text that bytes spell, each character in one to four of them.  Where bytes stand for no character,
there is no text, and the first of them are named.
-/

namespace Terraforming.Text

/-- Why bytes stand for no character. -/
inductive Garble where
  /-- No character begins so. -/
  | start
  /-- A character begins so, but something else follows than may. -/
  | continuation
  /-- A character begins so, and nothing follows. -/
  | ending
deriving DecidableEq, Repr

def Garble.reason : Garble → String
  | start => "invalid start byte"
  | continuation => "invalid continuation byte"
  | ending => "unexpected end of data"

/-- The first bytes that stand for no character. -/
structure Undecodable where
  position : Nat
  count : Nat
  /-- The first of them. -/
  lead : Nat
  garble : Garble
deriving DecidableEq, Repr

def Undecodable.message (u : Undecodable) : String :=
  let bytes :=
    if u.count = 1 then "byte 0x" ++ hex 2 u.lead ++ " in position " ++ toString u.position
    else "bytes in position " ++ toString u.position ++ "-" ++
      toString (u.position + u.count - 1)
  "'utf-8' codec can't decode " ++ bytes ++ ": " ++ u.garble.reason

/-- A character that is being read: its first byte, how many were read, and what has to follow. -/
structure OpenChar where
  lead : Nat
  count : Nat
  rest : PartialChar

/-- The bytes of the character, when the byte at `position` does not belong to it. -/
def OpenChar.undecodable (o : OpenChar) (position : Nat) (garble : Garble) : Undecodable :=
  ⟨position - o.count, o.count, o.lead, garble⟩

/-- Read on at `position`, behind the characters `done`, the last of them first. -/
def decodedFrom (position : Nat) (done : List Char) :
    Option OpenChar → List Nat → Except Undecodable (List Char)
  | none, [] => .ok done.reverse
  | some o, [] => .error (o.undecodable position .ending)
  | none, b :: bs =>
    if b < 0x80 then decodedFrom (position + 1) (Char.ofNat b :: done) none bs
    else match PartialChar.ofLead? b with
      | some rest => decodedFrom (position + 1) done (some ⟨b, 1, rest⟩) bs
      | none => .error ⟨position, 1, b, .start⟩
  | some o, b :: bs =>
    if o.rest.low ≤ b && b ≤ o.rest.high then
      let value := o.rest.value * 0x40 + (b - 0x80)
      if o.rest.left = 1 then decodedFrom (position + 1) (Char.ofNat value :: done) none bs
      else
        let rest : PartialChar := ⟨o.rest.left - 1, 0x80, 0xbf, value⟩
        decodedFrom (position + 1) done (some ⟨o.lead, o.count + 1, rest⟩) bs
    else .error (o.undecodable position .continuation)

/-- The text that bytes spell. -/
def decoded (bytes : List UInt8) : Except Undecodable String :=
  (decodedFrom 0 [] none (bytes.map UInt8.toNat)).map String.ofList

end Terraforming.Text
