import Terraforming.Catalog.Basic
import Terraforming.Wire.Cards
import Terraforming.Wire.Parse

/-!
# Catalogs on the wire

A catalog is written as the list of its cards; its name is kept elsewhere.  The summary of a catalog
says how many cards it has, of which kinds and with which tags.
-/

namespace Terraforming

/-- Why there is no catalog in a text. -/
inductive CatalogLoadError where
  | malformed (problems : List Problem)
  | unsound (f : CatalogFailure)

namespace Catalog

/-- The catalog whose cards a JSON value lists. -/
def ofJson (name : String) (j : Json) (limits : Json.Limits := .files) :
    Except CatalogLoadError Catalog :=
  match Wire.readCards limits j with
  | .bad ps => .error (.malformed ps)
  | .ok cards =>
    match Catalog.new name cards with
    | .ok c => .ok c
    | .error f => .error (.unsound f)

/-- The catalog whose cards a text lists. -/
def load (name text : String) (limits : Json.Limits := .files) : Except CatalogLoadError Catalog :=
  match Json.ofText? text limits with
  | some j => ofJson name j limits
  | none => .error (.malformed [⟨[], .invalidJson⟩])

/-- The cards of the catalog, with everything printed on them. -/
def json (c : Catalog) : Json := .array (c.cards.map (Wire.writeCard .full))

/-! ## Summaries -/

/-- How often each term occurs, as a dictionary. -/
def countsJson {α : Type} [Vocabulary α] (counts : List (α × Nat)) : Json :=
  .amounts (counts.map fun e => (e.1, (e.2 : Int)))

def summary (c : Catalog) : Json :=
  .object [("name", .string c.name), ("cards", .nat c.size), ("kinds", countsJson c.kindCounts),
    ("tags", countsJson c.tagCounts)]

def summaryText (c : Catalog) : String := c.summary.indented 0

end Catalog

end Terraforming
