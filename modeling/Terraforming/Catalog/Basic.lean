import Terraforming.Catalog.Defect
import Terraforming.Data.Total

/-!
# Catalogs

A catalog is a named list of cards without defects, no two of the same name.
-/

namespace Terraforming

/-- Something that keeps cards from making up a catalog. -/
inductive CatalogError where
  /-- A name that an earlier card has. -/
  | duplicateName (card : String)
  | cardDefect (card : String) (d : Defect)
deriving DecidableEq, Repr

namespace CatalogError

def message : CatalogError → String
  | duplicateName card => "Duplicate card name '" ++ card ++ "'"
  | cardDefect card d => "Card '" ++ card ++ "': " ++ d.message

end CatalogError

/-- Everything that keeps cards from making up a catalog; `seen` are the names of the cards
before. -/
def catalogErrorsAfter (seen : List String) : List Card → Except Fault (List CatalogError)
  | [] => .ok []
  | c :: cs => do
    let own ← c.defects
    let rest ← catalogErrorsAfter (c.name :: seen) cs
    return (if c.name ∈ seen then [.duplicateName c.name] else []) ++
      own.map (.cardDefect c.name) ++ rest

def catalogErrors (cards : List Card) : Except Fault (List CatalogError) :=
  catalogErrorsAfter [] cards

instance : DecidableEq (Except Fault (List CatalogError))
  | .ok a, .ok b => decidable_of_iff (a = b) (by simp)
  | .error a, .error b => decidable_of_iff (a = b) (by simp)
  | .ok _, .error _ => isFalse (by simp)
  | .error _, .ok _ => isFalse (by simp)

/-- What is suspicious about some cards. -/
def catalogWarnings (cards : List Card) : List String :=
  if cards.isEmpty then ["Catalog has no cards"] else []

/-- A named list of cards that nothing is wrong with. -/
structure Catalog where
  name : String
  cards : List Card
  sound : catalogErrors cards = .ok []

/-- Why some cards are no catalog. -/
inductive CatalogFailure where
  | invalid (errors : List CatalogError)
  | fault (f : Fault)

namespace Catalog

/-- The catalog of some cards, if nothing is wrong with them. -/
def new (name : String) (cards : List Card) : Except CatalogFailure Catalog :=
  match h : catalogErrors cards with
  | .ok [] => .ok ⟨name, cards, h⟩
  | .ok errors => .error (.invalid errors)
  | .error f => .error (.fault f)

/-- A catalog with more cards behind those of this one. -/
def extended (c : Catalog) (name : String) (extra : List Card) : Except CatalogFailure Catalog :=
  new name (c.cards ++ extra)

/-! ## Looking up -/

def names (c : Catalog) : List String := c.cards.map (·.name)

def size (c : Catalog) : Nat := c.cards.length

def get? (c : Catalog) (name : String) : Option Card := c.cards.find? fun d => d.name = name

def contains (c : Catalog) (name : String) : Bool := (c.get? name).isSome

/-- What there is to say about a name that is not in a catalog. -/
def unknownCard (c : Catalog) (name : String) : String :=
  "Unknown card '" ++ name ++ "' in catalog '" ++ c.name ++ "'"

/-- The card of a name, or what to say when there is none. -/
def byName (c : Catalog) (name : String) : Except String Card :=
  match c.get? name with
  | some d => .ok d
  | none => .error (c.unknownCard name)

def resolve (c : Catalog) (names : List String) : Except String (List Card) :=
  names.mapM c.byName

/-! ## Summaries -/

/-- How many cards there are of each kind that occurs. -/
def kindCounts (c : Catalog) : List (CardKind × Nat) :=
  (CardKind.all.map fun k => (k, c.cards.countP fun d => d.kind = k)).filter (·.2 ≠ 0)

/-- How often each tag that occurs is printed. -/
def tagCounts (c : Catalog) : List (CardTag × Nat) :=
  (CardTag.all.map fun t => (t, total (c.cards.map fun d => d.countTag (some t)))).filter (·.2 ≠ 0)

/-- The catalog in short. -/
def text (c : Catalog) : String :=
  "CardCatalog(" ++ Text.quoted c.name ++ ", " ++ toString c.size ++ " cards)"

end Catalog

end Terraforming
