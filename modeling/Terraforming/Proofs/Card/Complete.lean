import Terraforming.Catalog.Defect
import Terraforming.Proofs.Card.Ready
import Terraforming.Proofs.Data.Except

/-!
# Cards that are complete

A card without defects can still lack what its parts are carried out with.  The check looks at the
parameters of impacts, and at the cost, resource and tag of most actions; it does not look at the kind of
card resource that an action spends, at what the gains of effects consist of, at what metals are
worth after all, or at event tags, of which there is no count.

* `CardText.complete` — the rest of the check;
* `CardText.supplied` — the whole of it, part by part, and `CardText.supplied_of_complete`;
* `Card.supplied_corporate` — the built-in cards.
-/

namespace Terraforming

/-! ## What the check for defects passes over -/

/-- The types of impacts that count tags. -/
def ImpactType.countsTags : ImpactType → Bool
  | gainTerraformRatingPerOwnTag | gainProductionPerOwnTag | gainProductionPerOpponentTag
  | gainProductionPerAnyTag => true
  | _ => false

/-- The impact counts event tags. -/
def Impact.countsEvents (i : Impact) : Bool := i.type.countsTags && i.tag = some .event

/-- The action spends resources from its card and does not say which. -/
def Action.spendsUnnamed (a : Action) : Bool :=
  a.type = .spendSameCardResource && a.cardResource.isNone

/-- A gain of the effect names what is gained, and metals lose none of their value. -/
def Effect.complete (e : Effect) : Bool :=
  match e.type with
  | .gainCardResourceForOwnImpact | .gainCardResourceForAnyImpact => e.cardResource.isSome
  | .gainResourceForOwnImpact | .gainResourceForAnyImpact | .gainProductionForOwnImpact
  | .gainProductionForAnyImpact => e.resource.isSome
  -- without a tag the effect never answers
  | .gainProductionForAnyTagPlayed => e.tag.isNone || e.resource.isSome
  | .increasedMetalsValue => decide (0 ≤ e.count)
  | _ => true

/-- The card has what it needs, as far as the check for defects passes it over. -/
def CardText.complete (c : CardText) : Bool :=
  c.allImpacts.all (!·.countsEvents) && c.actions.all (!·.spendsUnnamed) &&
    c.effects.all (·.complete) && c.requirements.all (·.ready)

/-! ## What the parts of a card need -/

/-- The impact has what its type needs. -/
def Impact.supplied (i : Impact) : Bool := i.defects.isEmpty && !i.countsEvents

/-- The action has what its type needs. -/
def Action.supplied (a : Action) : Bool := a.defects.isEmpty && !a.spendsUnnamed

/-- Every part of the card has what it needs. -/
def CardText.supplied (c : CardText) : Bool :=
  c.allImpacts.all (·.supplied) && c.actions.all (·.supplied) && c.effects.all (·.complete) &&
    c.requirements.all (·.ready)

theorem Defect.when_eq_nil {condition : Bool} {d : Defect} :
    Defect.when condition d = [] ↔ condition = false := by
  cases condition <;> simp [Defect.when]

namespace Impact

variable {i : Impact}

/-- What an impact needs, parameter by parameter. -/
theorem supplied_iff :
    i.supplied = true ↔ (i.type.needsResource = true → i.resource.isSome = true) ∧
      (i.type.needsCardResource = true → i.cardResource.isSome = true) ∧
      (i.type.needsTag = true → i.tag.isSome = true) ∧ 0 < i.per ∧
      (i.type = .placeSpecialTile → i.specialTile.isSome = true) ∧
      (i.type = .oneOf → 2 ≤ i.options.length) ∧
      (i.type.countsTags = true → i.tag ≠ some .event) := by
  have counted : i.countsEvents = false ↔ (i.type.countsTags = true → i.tag ≠ some .event) := by
    cases counts : i.type.countsTags <;> simp [countsEvents, counts]
  simp only [supplied, defects, counted, Defect.when_eq_nil, Bool.and_eq_true, Bool.not_eq_true',
    List.isEmpty_iff, List.append_eq_nil_iff, Bool.and_eq_false_imp, decide_eq_true_eq,
    decide_eq_false_iff_not, Option.isNone_eq_false_iff, Nat.not_lt, Int.not_le, and_assoc]

theorem resource_of_supplied (supplied : i.supplied = true)
    (needs : i.type.needsResource = true) : ∃ r, i.resource = some r :=
  Option.isSome_iff_exists.1 ((supplied_iff.1 supplied).1 needs)

theorem cardResource_of_supplied (supplied : i.supplied = true)
    (needs : i.type.needsCardResource = true) : ∃ kind, i.cardResource = some kind :=
  Option.isSome_iff_exists.1 ((supplied_iff.1 supplied).2.1 needs)

theorem tile_of_supplied (supplied : i.supplied = true) (special : i.type = .placeSpecialTile) :
    ∃ tile, i.specialTile = some tile := by
  obtain ⟨-, -, -, -, tile, -⟩ := supplied_iff.1 supplied
  exact Option.isSome_iff_exists.1 (tile special)

/-- Tags that are counted can be. -/
theorem countable_of_supplied (supplied : i.supplied = true) (counts : i.type.countsTags = true) :
    countable i.tag i.per = true := by
  obtain ⟨-, -, -, per, -, -, tag⟩ := supplied_iff.1 supplied
  rw [countable, Bool.and_eq_true, decide_eq_true_eq, decide_eq_true_eq]
  exact ⟨tag counts, per⟩

end Impact

/-- What an action needs, parameter by parameter. -/
theorem Action.supplied_iff {a : Action} :
    a.supplied = true ↔
      (a.type = .spendResource ∨ a.type = .revealCardForTag → a.cost.isSome = true) ∧
      (a.type = .spendProduction → a.resource.isSome = true) ∧
      (a.type = .revealCardForTag → a.tag.isSome = true) ∧ a.impacts ≠ [] ∧
      (a.type = .spendSameCardResource → a.cardResource.isSome = true) := by
  have named : a.spendsUnnamed = false ↔
      (a.type = .spendSameCardResource → a.cardResource.isSome = true) := by
    simp [spendsUnnamed, imp_iff_not_or, Option.isSome_iff_ne_none]
  simp [supplied, defects, named, Defect.when_eq_nil, Option.isSome_iff_ne_none, and_assoc]

namespace CardText

variable {c : CardText}

/-- **The two checks together** find every part of a card to have what it needs. -/
theorem supplied_of_complete (flawless : c.defects = .ok []) (complete : c.complete = true) :
    c.supplied = true := by
  obtain ⟨kinds, -, none⟩ := bind_eq_ok.1 flawless
  simp only [pure_eq_ok, Except.ok.injEq, List.append_eq_nil_iff, List.flatMap_eq_nil_iff] at none
  obtain ⟨⟨⟨⟨⟨-, impacts⟩, actions⟩, -⟩, -⟩, -⟩ := none
  simp only [CardText.complete, Bool.and_eq_true, List.all_eq_true] at complete
  obtain ⟨⟨⟨counted, named⟩, effects⟩, requirements⟩ := complete
  simp only [supplied, Bool.and_eq_true, List.all_eq_true]
  refine ⟨⟨⟨fun i hi => ?_, fun a ha => ?_⟩, effects⟩, requirements⟩
  · rw [Impact.supplied, impacts i hi]
    exact counted i hi
  · rw [Action.supplied, actions a ha]
    exact named a ha

end CardText

/-! ## Cards -/

namespace Card

variable {c d : Card} {i : Impact}

/-- The order of the changes of production does not matter. -/
theorem supplied_of_normal (h : c.normal = d.normal) (supplied : d.supplied = true) :
    c.supplied = true := by
  have same : c.normal.supplied = d.normal.supplied := by rw [h]
  exact same.trans supplied

theorem supplied_corporate : ∀ c ∈ Catalog.corporate.cards, c.supplied = true := by
  decide +kernel

theorem BuiltIn.supplied (h : c.BuiltIn) : c.supplied = true := by
  obtain ⟨d, hd, same⟩ := h
  exact supplied_of_normal (normal_eq_of_beq same) (supplied_corporate d hd)

section

variable (supplied : c.supplied = true)

include supplied

theorem supplied_of_mem_allImpacts (hi : i ∈ c.allImpacts) : i.supplied = true := by
  simp only [CardText.supplied, Bool.and_eq_true, List.all_eq_true] at supplied
  exact supplied.1.1.1 i hi

theorem supplied_of_mem_actions {a : Action} (ha : a ∈ c.actions) : a.supplied = true := by
  simp only [CardText.supplied, Bool.and_eq_true, List.all_eq_true] at supplied
  exact supplied.1.1.2 a ha

theorem complete_of_mem_effects {e : Effect} (he : e ∈ c.effects) : e.complete = true := by
  simp only [CardText.supplied, Bool.and_eq_true, List.all_eq_true] at supplied
  exact supplied.1.2 e he

theorem counts_of_mem_requirements {r : Requirement} (hr : r ∈ c.requirements) :
    r.ready = true := by
  simp only [CardText.supplied, Bool.and_eq_true, List.all_eq_true] at supplied
  exact supplied.2 r hr

end

end Card

end Terraforming
