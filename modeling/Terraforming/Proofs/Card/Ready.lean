import Terraforming.Catalog.Corporate

/-!
# Cards that are ready to be resolved

A card text can leave unset what its impacts, actions and effects need when they are carried out, or
set it to something that makes no sense.  The checks here say of each printed part that it has what
its type needs; they are computed, and every built-in card passes them (`wellMade_corporate`).

Resources on a card are checked against the kind that the card supports: `kind` is that of the card
that the part is printed on.
-/

namespace Terraforming

/-! ## The parts of a card -/

/-- The tags of a kind can be counted in groups. -/
def countable (tag : Option CardTag) (per : Int) : Bool := tag ≠ some .event && decide (0 < per)

/-- The impact has what its type needs. -/
def Impact.ready (kind : Option CardResource) (i : Impact) : Bool :=
  match i.type with
  | .raiseTerraformRating | .drawCard => decide (0 ≤ i.count)
  | .gainTerraformRatingPerOwnTag => decide (0 ≤ i.count) && countable i.tag i.per
  | .placeSpecialTile => i.specialTile.isSome
  | .addResourceToSameCard =>
    kind.isSome && decide (i.cardResource = kind) && decide (0 ≤ i.count)
  | .addResourceToAnotherCard | .addResourceToAnyCard =>
    i.cardResource.isSome && decide (0 ≤ i.count)
  | .removeResourceFromAnyCard => i.cardResource.isSome
  | .gainResourcePerCity | .gainResourcePerCityOnMars => i.resource.isSome && decide (0 ≤ i.count)
  | .gainResource | .gainProduction | .gainProductionPerCity | .gainProductionPerCityOnMars
  | .reduceAnyProduction => i.resource.isSome
  | .gainProductionPerOwnTag | .gainProductionPerOpponentTag | .gainProductionPerAnyTag =>
    i.resource.isSome && countable i.tag i.per
  | _ => true

/-- The effect has what its type needs, and takes nothing away. -/
def Effect.ready (kind : Option CardResource) (e : Effect) : Bool :=
  match e.type with
  | .gainCardResourceForOwnImpact | .gainCardResourceForAnyImpact =>
    kind.isSome && decide (e.cardResource = kind) && decide (0 ≤ e.count)
  | .gainResourceForOwnImpact | .gainResourceForAnyImpact | .gainProductionForOwnImpact
  | .gainProductionForAnyImpact | .gainProductionForAnyTagPlayed =>
    e.resource.isSome && decide (0 ≤ e.count)
  | .rebateAfterPlayingCardTag | .increasedMetalsValue => decide (0 ≤ e.count)
  | _ => true

/-- The action has what its type needs. -/
def Action.ready (kind : Option CardResource) (a : Action) : Bool :=
  match a.type with
  | .causeFreeImpact => true
  | .spendResource => a.cost.isSome
  | .spendSameCardResource => kind.isSome && decide (a.cardResource = kind)
  | .spendProduction => a.resource.isSome
  | .revealCardForTag => a.cost.isSome && a.tag.isSome

/-- The requirement counts no event tags. -/
def Requirement.ready (r : Requirement) : Bool := r.type ≠ .minTags || r.tag ≠ some .event

/-! ## Whole cards -/

/-- Every part of the card has what it needs. -/
def CardText.wellMade (c : CardText) : Bool :=
  c.allImpacts.all (·.ready c.supportedResource?) && c.actions.all (·.ready c.supportedResource?) &&
    c.effects.all (·.ready c.supportedResource?) && c.requirements.all (·.ready)

/-- A built-in card, up to the order in which its changes of production are listed. -/
def Card.BuiltIn (c : Card) : Prop := ∃ d ∈ Catalog.corporate.cards, (c == d) = true

namespace Card

variable {c d : Card} {i : Impact}

@[simp] theorem beq_self (c : Card) : (c == c) = true := by
  show (c.name == c.name && decide (c.normal = c.normal)) = true
  simp

theorem normal_eq_of_beq (h : (c == d) = true) : c.normal = d.normal := by
  have both : (c.name == d.name && decide (c.normal = d.normal)) = true := h
  rw [Bool.and_eq_true] at both
  exact of_decide_eq_true both.2

/-- The order of the changes of production does not matter. -/
theorem wellMade_of_beq (h : (c == d) = true) (made : d.wellMade = true) : c.wellMade = true := by
  have same : c.normal.wellMade = d.normal.wellMade := by rw [normal_eq_of_beq h]
  exact same.trans made

theorem wellMade_corporate : ∀ c ∈ Catalog.corporate.cards, c.wellMade = true := by
  decide +kernel

theorem BuiltIn.wellMade (h : c.BuiltIn) : c.wellMade = true := by
  obtain ⟨d, hd, same⟩ := h
  exact wellMade_of_beq same (wellMade_corporate d hd)

/-! ## What a well-made card has -/

section

variable (made : c.wellMade = true)

include made

theorem ready_of_mem_allImpacts (hi : i ∈ c.allImpacts) :
    i.ready c.supportedResource? = true := by
  simp only [CardText.wellMade, Bool.and_eq_true, List.all_eq_true] at made
  exact made.1.1.1 i hi

theorem ready_of_mem_actions {a : Action} (ha : a ∈ c.actions) :
    a.ready c.supportedResource? = true := by
  simp only [CardText.wellMade, Bool.and_eq_true, List.all_eq_true] at made
  exact made.1.1.2 a ha

theorem ready_of_mem_effects {e : Effect} (he : e ∈ c.effects) :
    e.ready c.supportedResource? = true := by
  simp only [CardText.wellMade, Bool.and_eq_true, List.all_eq_true] at made
  exact made.1.2 e he

theorem ready_of_mem_requirements {r : Requirement} (hr : r ∈ c.requirements) :
    r.ready = true := by
  simp only [CardText.wellMade, Bool.and_eq_true, List.all_eq_true] at made
  exact made.2 r hr

end

end Card

/-! ## Trees of impacts -/

namespace Impact

variable {i j : Impact} {is : List Impact}

theorem walk_eq (i : Impact) : i.walk = i :: walkAll i.options := by
  cases i
  rfl

theorem mem_walk_self (i : Impact) : i ∈ i.walk := by
  rw [walk_eq]
  exact List.mem_cons_self

theorem mem_walkAll : j ∈ walkAll is ↔ ∃ i ∈ is, j ∈ i.walk := by
  induction is with
  | nil => simp [walkAll]
  | cons i is ih => simp [walkAll, ih]

/-- The tree below an option is part of the tree. -/
theorem walk_subset_of_mem_options (h : j ∈ i.options) : j.walk ⊆ i.walk := by
  intro k hk
  rw [walk_eq i]
  exact List.mem_cons_of_mem _ (mem_walkAll.2 ⟨j, h, hk⟩)

/-- The card can cause whatever it prints, however deep. -/
theorem walk_subset_of_mem_impacts {c : CardText} (h : i ∈ c.impacts) : i.walk ⊆ c.allImpacts :=
  fun _ hk => List.mem_append_left _ (mem_walkAll.2 ⟨i, h, hk⟩)

theorem walk_subset_of_mem_actions {c : CardText} {a : Action} (ha : a ∈ c.actions)
    (h : i ∈ a.impacts) : i.walk ⊆ c.allImpacts :=
  fun _ hk => List.mem_append_right _ (List.mem_flatMap.2 ⟨a, ha, mem_walkAll.2 ⟨i, h, hk⟩⟩)

end Impact

end Terraforming
