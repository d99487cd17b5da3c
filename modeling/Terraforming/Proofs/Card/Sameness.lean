import Terraforming.Card.Basic
import Terraforming.Proofs.Data.Table

/-!
# The same card

Two cards are the same when they have the same normal form (`Card.beq_iff`), and that is an
equivalence.  A normal form is its own (`Card.normal_normal`), and it shows whatever the card shows,
apart from the order in which the changes of production are listed.
-/

namespace Terraforming

namespace Card

variable {c d : Card}

/-- The same card is a card with the same normal form. -/
theorem beq_iff : (c == d) = true ↔ c.normal = d.normal := by
  show (c.name == d.name && decide (c.normal = d.normal)) = true ↔ _
  rw [Bool.and_eq_true, beq_iff_eq, decide_eq_true_eq]
  refine ⟨And.right, fun same => ⟨?_, same⟩⟩
  show c.normal.name = d.normal.name
  rw [same]

instance : EquivBEq Card where
  rfl := beq_iff.2 rfl
  symm h := beq_iff.2 (beq_iff.1 h).symm
  trans h h' := beq_iff.2 ((beq_iff.1 h).trans (beq_iff.1 h'))

/-! ## What a normal form shows -/

/-- What is printed on a card makes the card. -/
theorem ext_text (h : c.toCardText = d.toCardText) : c = d := by
  cases c
  cases d
  cases h
  rfl

theorem normal_entries : c.normal.ownProduction.entries = c.ownProduction.table.entries :=
  Ledger.entries_ofList c.ownProduction.table.nodup_keys

@[simp] theorem normal_normal : c.normal.normal = c.normal := by
  have table : c.normal.ownProduction.table = c.ownProduction.table := by
    rw [Ledger.table, normal_entries, Table.ofList_entries]
  have listed : c.normal.normal.ownProduction = c.normal.ownProduction := by
    refine Ledger.ext_entries ?_
    rw [normal_entries, normal_entries, table]
  refine ext_text ?_
  show { c.toCardText with ownProduction := c.normal.normal.ownProduction } =
    { c.toCardText with ownProduction := c.normal.ownProduction }
  rw [listed]

@[simp] theorem normal_beq_normal : (c.normal == d.normal) = (c == d) := by
  rw [Bool.eq_iff_iff, beq_iff, beq_iff, normal_normal, normal_normal]

theorem mem_normal_entries {e : Resource × Int} :
    e ∈ c.normal.ownProduction.entries ↔ e ∈ c.ownProduction.entries := by
  rw [normal_entries, Ledger.mem_entries_table]

@[simp] theorem normal_ownChange (r : Resource) : c.normal.ownChange r = c.ownChange r := by
  have same : c.normal.ownProduction.get? r = c.ownProduction.get? r := by
    refine Option.ext fun n => ?_
    rw [Ledger.get?_eq_some_iff, Ledger.get?_eq_some_iff, mem_normal_entries]
  rw [ownChange, ownChange, Ledger.getD, Ledger.getD, same]

end Card

end Terraforming
