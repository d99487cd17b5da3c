import Terraforming.Text.Numeral

/-!
# Limits of readers

Texts are read by readers that are not part of the program, and each of them takes so much and no
more.  How much it takes is a parameter of everything that reads; the limits that are named here are
those that the readers were found to have, and stand where nothing else is said.
-/

namespace Terraforming.Json

/-- What a reader takes at most. -/
structure Limits where
  /-- How deep arrays and objects with something in them may be nested. -/
  depth : Nat
  /-- How many digits a number may have in front of its point. -/
  digits : Nat := Text.maxDigits
  /-- How many levels of impacts there may be, each with the next among its options. -/
  levels : Nat := 255
deriving DecidableEq, Repr

namespace Limits

/-- The limits that were found for files. -/
def files : Limits := { depth := 200 }

/-- The limits that were found for what is sent. -/
def sent : Limits := { depth := 950 }

end Limits

end Terraforming.Json
