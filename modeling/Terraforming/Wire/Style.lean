import Terraforming.Data.Table
import Terraforming.Data.Vocabulary
import Terraforming.Wire.Json

/-!
# Writing records

Records are written in two styles.  The full style writes every field.  The brief style leaves out
every field that has the value it would have if it were left out, writes a location as a pair of
coordinates or as its name, and writes a card as its name.
-/

namespace Terraforming

inductive Style where
  | full
  | brief
deriving DecidableEq, Repr

namespace Json

/-- A term as its word. -/
def term {α : Type} [Vocabulary α] (a : α) : Json := string (word a)

def terms {α : Type} [Vocabulary α] (as : List α) : Json := array (as.map term)

/-- An amount for each term, as a dictionary. -/
def amounts {α : Type} [Vocabulary α] (es : List (α × Int)) : Json :=
  object (es.map fun e => (word e.1, int e.2))

end Json

namespace Style

/-- A field; `isDefault` says that its value is the one it would have if it were left out. -/
def field (s : Style) (name : String) (isDefault : Bool) (value : Json) : List (String × Json) :=
  if s = .brief && isDefault then [] else [(name, value)]

/-- A field that may be left open. -/
def option {α : Type} (s : Style) (name : String) (f : α → Json) (a : Option α) :
    List (String × Json) :=
  s.field name a.isNone (Json.optional f a)

/-- A field that may be empty. -/
def list (s : Style) (name : String) (xs : List Json) : List (String × Json) :=
  s.field name xs.isEmpty (.array xs)

def int (s : Style) (name : String) (d : Int) (n : Int) : List (String × Json) :=
  s.field name (n = d) (.int n)

end Style

end Terraforming
