import Terraforming.Catalog.Defect
import Terraforming.Proofs.Data.Except

/-!
# Kinds of resources on a card

A card holds the kind of resource that it refers to first: in its impacts, in its actions, in its effects
or in its points, in this order.  The check for defects compares what impacts, actions and points refer
to; effects it passes over.  So a card that the check passes holds what its impacts and actions refer to,
and it holds whatever it refers to if and only if its effects do not refer to anything else.

* `CardText.selfKinds` — every reference, and `CardText.supportedResource?_eq`;
* `CardText.kindsAgree_of_flawless` — what the check sees agrees;
* `CardText.holds_iff_effectsAgree` — and the rest does if effects do.
-/

namespace Terraforming

/-- The effect is about resources on the card that prints it. -/
def EffectType.refersToCard : EffectType → Bool
  | gainCardResourceForOwnImpact | gainCardResourceForAnyImpact | cannotRemoveThisCardResource => true
  | _ => false

namespace CardText

variable {c : CardText} {k k' : Option CardResource}

/-- The kinds that impacts put on the card, options and the impacts of actions included. -/
def impactKinds (c : CardText) : List (Option CardResource) :=
  (c.allImpacts.filter fun i => i.type = .addResourceToSameCard).map (·.cardResource)

/-- The kinds that actions spend from the card. -/
def actionKinds (c : CardText) : List (Option CardResource) :=
  (c.actions.filter fun a => a.type = .spendSameCardResource).map (·.cardResource)

/-- The kinds that effects put on the card or keep there. -/
def effectKinds (c : CardText) : List (Option CardResource) :=
  (c.effects.filter fun e => e.type.refersToCard).map (·.cardResource)

/-- The kind that counts for points. -/
def pointKinds (c : CardText) : List (Option CardResource) :=
  ((c.points.bind (·.cardResource)).map some).toList

/-- Whatever the card refers to as resources on itself. -/
def selfKinds (c : CardText) : List (Option CardResource) :=
  c.impactKinds ++ c.actionKinds ++ c.effectKinds ++ c.pointKinds

theorem mem_selfKinds_of_impact {i : Impact} (hi : i ∈ c.allImpacts)
    (type : i.type = .addResourceToSameCard) : i.cardResource ∈ c.selfKinds := by
  have mem : i.cardResource ∈ c.impactKinds :=
    List.mem_map.2 ⟨i, List.mem_filter.2 ⟨hi, decide_eq_true type⟩, rfl⟩
  simp [selfKinds, mem]

theorem mem_selfKinds_of_action {a : Action} (ha : a ∈ c.actions)
    (type : a.type = .spendSameCardResource) : a.cardResource ∈ c.selfKinds := by
  have mem : a.cardResource ∈ c.actionKinds :=
    List.mem_map.2 ⟨a, List.mem_filter.2 ⟨ha, decide_eq_true type⟩, rfl⟩
  simp [selfKinds, mem]

theorem mem_selfKinds_of_effect {e : Effect} (he : e ∈ c.effects) (type : e.type.refersToCard = true) :
    e.cardResource ∈ c.selfKinds := by
  have mem : e.cardResource ∈ c.effectKinds := List.mem_map.2 ⟨e, List.mem_filter.2 ⟨he, type⟩, rfl⟩
  simp [selfKinds, mem]

/-- The effects of the card refer to no other kind than the rest of it, and than each other. -/
def EffectsAgree (c : CardText) : Prop := ∀ k ∈ c.effectKinds, ∀ k' ∈ c.selfKinds, k = k'

instance : Decidable c.EffectsAgree :=
  inferInstanceAs (Decidable (∀ k ∈ c.effectKinds, ∀ k' ∈ c.selfKinds, k = k'))

/-- **A card holds** what it refers to first. -/
theorem supportedResource?_eq (c : CardText) : c.supportedResource? = c.selfKinds.head?.join := by
  have effects : (fun e : Effect => decide (e.type = .gainCardResourceForOwnImpact) ||
      decide (e.type = .gainCardResourceForAnyImpact) ||
      decide (e.type = .cannotRemoveThisCardResource)) = fun e => e.type.refersToCard := by
    funext e
    cases e.type <;> rfl
  have points : c.pointKinds.head?.join = c.points.bind (·.cardResource) := by
    rw [pointKinds, Option.head?_toList]
    cases c.points.bind (·.cardResource) <;> rfl
  rw [supportedResource?, selfReference?, effects]
  simp only [selfKinds, List.head?_append, impactKinds, actionKinds, effectKinds, List.head?_map,
    List.head?_filter]
  rw [← points]
  cases c.allImpacts.find? fun i => i.type = .addResourceToSameCard with
  | some i => rfl
  | none =>
    cases c.actions.find? fun a => a.type = .spendSameCardResource with
    | some a => rfl
    | none => cases c.effects.find? fun e => e.type.refersToCard <;> rfl

/-- What the check compares is what impacts, actions and points refer to. -/
theorem kindsOnCard_eq (c : CardText) : c.kindsOnCard = c.impactKinds ++ c.actionKinds ++ c.pointKinds :=
  rfl

/-- When the check finds nothing wrong, what it sees agrees. -/
theorem kindsAgree_of_flawless (flawless : c.defects = .ok []) (hk : k ∈ c.kindsOnCard)
    (hk' : k' ∈ c.kindsOnCard) : k = k' := by
  obtain ⟨kinds, checked, none⟩ := bind_eq_ok.1 flawless
  simp only [pure_eq_ok, Except.ok.injEq, List.append_eq_nil_iff] at none
  obtain ⟨⟨⟨⟨⟨⟨-, rfl⟩, -⟩, -⟩, -⟩, -⟩, -⟩ := none
  unfold kindDefects at checked
  split at checked
  next nothing =>
    rw [nothing] at hk
    cases hk
  next k₀ ks kinds =>
    split at checked
    next all =>
      have first : ∀ k ∈ c.kindsOnCard, k = k₀ := by
        rw [kinds]
        refine List.forall_mem_cons.2 ⟨rfl, fun k hk => ?_⟩
        exact of_decide_eq_true (List.all_eq_true.1 all k hk)
      rw [first k hk, first k' hk']
    next => split at checked <;> cases checked

/-- A card holds the kind that all its references name, if they agree. -/
theorem holds_of_agree (agree : ∀ k ∈ c.selfKinds, ∀ k' ∈ c.selfKinds, k = k') (hk : k ∈ c.selfKinds) :
    k = c.supportedResource? := by
  obtain ⟨first, rest, kinds⟩ := List.exists_cons_of_ne_nil (List.ne_nil_of_mem hk)
  rw [supportedResource?_eq, kinds, List.head?_cons, Option.join_some]
  exact agree k hk first (kinds ▸ List.mem_cons_self)

/-- **What impacts and actions refer to** a card without defects holds. -/
theorem holds_of_flawless (flawless : c.defects = .ok []) (hk : k ∈ c.impactKinds ++ c.actionKinds) :
    k = c.supportedResource? := by
  obtain ⟨first, rest, kinds⟩ := List.exists_cons_of_ne_nil (List.ne_nil_of_mem hk)
  have seen : ∀ k ∈ c.impactKinds ++ c.actionKinds, k ∈ c.kindsOnCard := fun k hk =>
    List.mem_append_left _ hk
  have early : c.selfKinds = first :: (rest ++ (c.effectKinds ++ c.pointKinds)) := by
    rw [selfKinds, List.append_assoc, kinds, List.cons_append]
  rw [supportedResource?_eq, early, List.head?_cons, Option.join_some]
  exact kindsAgree_of_flawless flawless (seen k hk) (seen first (kinds ▸ List.mem_cons_self))

/-- **A card without defects** holds whatever it refers to exactly when its effects agree. -/
theorem holds_iff_effectsAgree (flawless : c.defects = .ok []) :
    (∀ k ∈ c.selfKinds, k = c.supportedResource?) ↔ c.EffectsAgree := by
  constructor
  · intro holds k hk k' hk'
    have own : k ∈ c.selfKinds := by
      rw [selfKinds]
      exact List.mem_append_left _ (List.mem_append_right _ hk)
    exact (holds k own).trans (holds k' hk').symm
  · intro agree k hk
    refine holds_of_agree (fun k hk k' hk' => ?_) hk
    -- a kind is seen by the check, or it is one of an effect
    have sort : ∀ k ∈ c.selfKinds, k ∈ c.kindsOnCard ∨ k ∈ c.effectKinds := by
      intro k hk
      rw [kindsOnCard_eq]
      simp only [selfKinds, List.mem_append] at hk ⊢
      tauto
    rcases sort k hk, sort k' hk' with ⟨seen | effect, seen' | effect'⟩
    · exact kindsAgree_of_flawless flawless seen seen'
    · exact (agree k' effect' k hk).symm
    · exact agree k effect k' hk'
    · exact agree k effect k' hk'

end CardText

end Terraforming
