import Terraforming.Proofs.Data.Table
import Terraforming.Turn.Reaction

/-!
# What effects do

Every reaction is that of an active effect of somebody.  To an impact it is the gain of the effect
(`Game.mem_reactionsToImpact`), and to a card a rebate or production for its tags
(`Game.mem_reactionsToCard`).
-/

namespace Terraforming

namespace ActiveEffect

variable {actor owner : PlayerId} {i : Impact} {c : Card} {a : ActiveEffect} {o : Operation}

theorem gain_of_onImpact (h : a.onImpact actor i owner = some o) : a.gain owner = some o := by
  unfold onImpact at h
  split at h
  · cases h
  · split at h
    · exact h
    · cases h

theorem onCard_cases (h : a.onCard actor c owner = some o) :
    (c.countTag a.effect.tag : Int) ≠ 0 ∧
      ((a.effect.type = .rebateAfterPlayingCardTag ∧
        o = .changeResources owner (some .megacredits)
          (a.effect.count * (c.countTag a.effect.tag : Int))) ∨
      (a.effect.type = .gainProductionForAnyTagPlayed ∧
        o = .changeProduction owner a.effect.resource
          (a.effect.count * (c.countTag a.effect.tag : Int)))) := by
  simp only [onCard] at h
  split at h
  · cases h
  next tags =>
    refine ⟨tags, ?_⟩
    split at h
    next type =>
      split at h
      · cases h
        exact .inl ⟨type, rfl⟩
      · cases h
    next type =>
      cases h
      exact .inr ⟨type, rfl⟩
    next => cases h

end ActiveEffect

namespace Game

variable {g : Game} {actor : PlayerId} {o : Operation}

theorem mem_reactions {react : PlayerId → ActiveEffect → Option Operation}
    (ho : o ∈ g.reactions react) :
    ∃ p q a, g.player? p = some q ∧ a ∈ q.effects ∧ react p a = some o := by
  obtain ⟨⟨p, q⟩, he, ho⟩ := List.mem_flatMap.1 ho
  obtain ⟨a, ha, reacts⟩ := List.mem_filterMap.1 ho
  exact ⟨p, q, a, Table.get?_eq_some_iff.2 he, ha, reacts⟩

theorem mem_reactions_of {react : PlayerId → ActiveEffect → Option Operation} {p : PlayerId}
    {q : Player} {a : ActiveEffect} (hq : g.player? p = some q) (ha : a ∈ q.effects)
    (reacts : react p a = some o) : o ∈ g.reactions react :=
  List.mem_flatMap.2 ⟨(p, q), Table.get?_eq_some_iff.1 hq, List.mem_filterMap.2 ⟨a, ha, reacts⟩⟩

theorem mem_reactionsToImpact {i : Impact} (ho : o ∈ g.reactionsToImpact actor i) :
    ∃ p q a, g.player? p = some q ∧ a ∈ q.effects ∧ a.gain p = some o := by
  obtain ⟨p, q, a, hq, ha, reacts⟩ := mem_reactions ho
  exact ⟨p, q, a, hq, ha, ActiveEffect.gain_of_onImpact reacts⟩

theorem mem_reactionsToCard {c : Card} (ho : o ∈ g.reactionsToCard actor c) :
    ∃ p q a, g.player? p = some q ∧ a ∈ q.effects ∧ (c.countTag a.effect.tag : Int) ≠ 0 ∧
      ((a.effect.type = .rebateAfterPlayingCardTag ∧
        o = .changeResources p (some .megacredits)
          (a.effect.count * (c.countTag a.effect.tag : Int))) ∨
      (a.effect.type = .gainProductionForAnyTagPlayed ∧
        o = .changeProduction p a.effect.resource
          (a.effect.count * (c.countTag a.effect.tag : Int)))) := by
  obtain ⟨p, q, a, hq, ha, reacts⟩ := mem_reactions ho
  exact ⟨p, q, a, hq, ha, ActiveEffect.onCard_cases reacts⟩

end Game

end Terraforming
