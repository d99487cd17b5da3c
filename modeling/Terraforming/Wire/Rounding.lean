/-!
# Decimals in binary

A decimal is kept with 53 binary digits: the number with so many of them that is nearest to it takes
its place, the even one of two that are equally near.  Numbers that are too large have no such
neighbor, and below the smallest one there is only zero.
-/

namespace Terraforming.Wire

/-- What becomes of a decimal. -/
inductive Rounded where
  | infinite
  | fraction
  | whole (n : Int)
deriving DecidableEq, Repr

/-- The natural number next to `a / b`; of two, the even one. -/
def nearest (a b : Nat) : Nat :=
  let q := a / b
  let r := a % b
  if 2 * r < b || (2 * r == b && q % 2 == 0) then q else q + 1

/-- How many binary digits are kept. -/
def precision : Nat := 53

/-- The weight of the last binary digit that is kept of `a / b`, as an exponent of two. -/
def lastWeight (a b : Nat) : Int :=
  let e : Int := a.log2 - b.log2 - (precision - 1)
  -- The quotient has one digit less than its parts suggest if `a` begins lower than `b`.
  let e := if a * Nat.pow 2 (-e).toNat < b * Nat.pow 2 (e.toNat + precision - 1) then e - 1 else e
  max e (-1074)

/-- `a / b` for natural numbers that are not zero. -/
def roundQuotient (a b : Nat) : Rounded :=
  let e := lastWeight a b
  let unit := Nat.pow 2 (-e).toNat
  let n := nearest (a * unit) (b * Nat.pow 2 e.toNat) * Nat.pow 2 e.toNat
  if Nat.pow 2 1024 * unit ≤ n then .infinite
  else if n % unit = 0 then .whole ((n / unit : Nat) : Int)
  else .fraction

namespace Rounded

def neg : Rounded → Rounded
  | whole n => whole (-n)
  | r => r

/-- `mantissa * 10 ^ exponent`.  What is far out of reach is not computed. -/
def ofDecimal (mantissa exponent : Int) : Rounded :=
  let a := mantissa.natAbs
  let size := (toString a).length + exponent
  let r :=
    if a = 0 || size < -330 then whole 0
    else if 310 < size then infinite
    else roundQuotient (a * Nat.pow 10 exponent.toNat) (Nat.pow 10 (-exponent).toNat)
  if mantissa < 0 then r.neg else r

end Rounded

end Terraforming.Wire
