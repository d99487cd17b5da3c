import Terraforming.Proofs.Game.Bystanders
import Terraforming.Proofs.Game.GenerationEnd
import Terraforming.Proofs.Game.Passives
import Terraforming.Proofs.Turn.Blocks
import Terraforming.Proofs.Turn.Reactions

/-!
# Whom operations are about

What an impact does is about the player who caused it, or about nobody, unless the impact is of one of
the three types that are aimed (`ImpactType.aims`): at a player, or at a card of one.  And an effect
brings something to its own player only.

* `Impact.Does.own` — impacts that are not aimed;
* `Impact.Does.removal`, `Impact.Does.plants`, `Impact.Does.reduction` — those that are, with the state of
  the target at that moment;
* `ActiveEffect.brings_of_onImpact`, `ActiveEffect.brings_of_onCard` — effects.
-/

namespace Terraforming

/-- The operation is about `p` or about nobody: everybody else is passed over. -/
def Operation.Own (p : PlayerId) (o : Operation) : Prop := ∀ r, r ≠ p → o.Passes r

theorem Operation.Minds.own {p : PlayerId} {o : Operation} (minds : o.Minds p)
    (kept : o.type ≠ .resetCardActions) : o.Own p := by
  refine fun r other => ⟨fun about => ?_, kept⟩
  obtain own | none := minds
  · exact other (Option.some.inj (about.symm.trans own))
  · exact absurd (about.symm.trans none) nofun

namespace Impact

variable {i : Impact} {g : Game} {actor : PlayerId} {source : Option Int} {answer : List Choice}
  {ops : List Operation} {more : List Impact}

/-! ## Impacts that are not aimed -/

/-- No impact gives back the actions of all cards. -/
theorem resets_notMem_emits (t : ImpactType) : OperationType.resetCardActions ∉ t.emits := by
  cases t <;> decide

/-- Whatever an impact does, the used actions of cards stay used. -/
theorem Does.keepsUsed (does : i.Does actor source g answer ops more) :
    ∀ o ∈ ops, o.type ≠ .resetCardActions := by
  obtain ⟨d, hd, yields⟩ := does
  intro o ho resets
  exact resets_notMem_emits i.type (resets ▸ demand_emits hd ops yields.leads o ho)

/-- **An impact that is not aimed** is about nobody but the actor. -/
theorem Does.own (does : i.Does actor source g answer ops more) (type : i.type.aims = false) :
    ∀ o ∈ ops, o.Own actor := by
  intro o ho
  have kept := does.keepsUsed o ho
  obtain ⟨d, hd, yields⟩ := does
  exact (demand_serves hd type ops yields.leads o ho).2.own kept

/-! ## Impacts that are aimed -/

/-- What is aimed adds no effect to those of a player. -/
theorem Does.quiet (does : i.Does actor source g answer ops more) (type : i.type.aims = true) :
    ∀ o ∈ ops, o.addsPassive = false := by
  obtain ⟨d, hd, yields⟩ := does
  intro o ho
  have among := demand_emits hd ops yields.leads o ho
  have other : o.type ≠ .addEffect := by
    intro adds
    rw [adds] at among
    revert type among
    cases i.type <;> decide
  simp [Operation.addsPassive, other]

/-- Resources are removed from a card that has some, of the actor or not protected. -/
theorem Does.removal (does : i.Does actor source g answer ops more)
    (type : i.type = .removeResourceFromAnyCard) :
    ∃ c r n q, answer = [c] ∧ c.card? = some (r, n) ∧ g.player? r = some q ∧
      (r = actor ∨ i.cardResource ∉ q.protectedKinds n) ∧
      ops = [.changeCardResource r n i.cardResource (-min i.count (q.held n i.cardResource))] ∧
      more = [] := by
  obtain ⟨d, hd, yields⟩ := does
  rw [demand, type] at hd
  simp only [demandRemoval] at hd
  split at hd
  · obtain ⟨kind, -, ⟨⟩⟩ := bind_eq_ok.1 hd
    cases yields
  · cases hd
    cases yields with
    | @pick _ _ c t _ named among ok =>
      cases ok
      obtain ⟨⟨r, q⟩, he, listed⟩ := List.mem_flatMap.1 among
      obtain ⟨d, hd, rfl⟩ := List.mem_map.1 listed
      have hq : g.player? r = some q := Table.get?_eq_some_iff.2 he
      have held : heldOn g (r, d.instanceId) i.cardResource = q.held d.instanceId i.cardResource := by
        simp [heldOn, hq]
      have open_ := (Bool.and_eq_true _ _ ▸ (List.mem_filter.1 hd).2).2
      refine ⟨c, r, d.instanceId, q, rfl, named, hq, ?_, ?_, rfl⟩
      · simpa using open_
      · rw [held]

/-- Plants are destroyed at a player who has some. -/
theorem Does.plants (does : i.Does actor source g answer ops more)
    (type : i.type = .destroyAnyPlants) :
    ∃ c r q, answer = [c] ∧ c.player = some r ∧ g.player? r = some q ∧
      ops = [.changeResources r (some .plants) (-min i.count (q.balance (some .plants)))] ∧
      more = [] := by
  obtain ⟨d, hd, yields⟩ := does
  rw [demand, type] at hd
  cases hd
  unfold demandAnyPlants at yields
  split at yields
  · cases yields
  · cases yields with
    | @aim _ _ c r named among =>
      obtain ⟨q, hq⟩ := Game.mem_playerIds.1 (List.mem_of_mem_filter among)
      have plants : plantsOf g r = q.balance (some .plants) := by simp [plantsOf, hq]
      exact ⟨c, r, q, rfl, named, hq, by simp only [plants], rfl⟩

/-- Production is reduced at a player who can bear it. -/
theorem Does.reduction (does : i.Does actor source g answer ops more)
    (type : i.type = .reduceAnyProduction) :
    ∃ c r q, answer = [c] ∧ c.player = some r ∧ g.player? r = some q ∧
      q.canReduceProduction i.resource i.count = true ∧
      ops = [.changeProduction r i.resource (-i.count)] ∧ more = [] := by
  obtain ⟨d, hd, yields⟩ := does
  rw [demand, type] at hd
  cases hd
  simp only [demandReduction] at yields
  split at yields
  · cases yields
  · cases yields with
    | @aim _ _ c r named among =>
      obtain ⟨⟨r, q⟩, he, rfl⟩ := List.mem_map.1 among
      obtain ⟨there, bears⟩ := List.mem_filter.1 he
      exact ⟨c, r, q, rfl, named, Table.get?_eq_some_iff.2 there, bears, rfl, rfl⟩

/-- What is aimed comes to one operation. -/
theorem Does.aimed (does : i.Does actor source g answer ops more) (type : i.type.aims = true) :
    ∃ o, ops = [o] ∧ more = [] := by
  cases ht : i.type with
  | removeResourceFromAnyCard =>
    obtain ⟨c, r, n, q, -, -, -, -, one, none⟩ := does.removal ht
    exact ⟨_, one, none⟩
  | destroyAnyPlants =>
    obtain ⟨c, r, q, -, -, -, one, none⟩ := does.plants ht
    exact ⟨_, one, none⟩
  | reduceAnyProduction =>
    obtain ⟨c, r, q, -, -, -, -, one, none⟩ := does.reduction ht
    exact ⟨_, one, none⟩
  | _ =>
    rw [ht] at type
    cases type

end Impact

/-! ## Effects -/

namespace ActiveEffect

/-- What an effect may bring its owner: as much as it says, or that many times. -/
inductive Brings (owner : PlayerId) (a : ActiveEffect) : Operation → Prop where
  | cardResource : Brings owner a
      (.changeCardResource owner a.source a.effect.cardResource a.effect.count)
  | resources (r : Option Resource) (n : Nat) :
      Brings owner a (.changeResources owner r (a.effect.count * n))
  | production (r : Option Resource) (n : Nat) :
      Brings owner a (.changeProduction owner r (a.effect.count * n))

variable {actor owner : PlayerId} {i : Impact} {c : Card} {a : ActiveEffect} {o : Operation}

theorem brings_of_onImpact (h : a.onImpact actor i owner = some o) : a.Brings owner o := by
  have gain := gain_of_onImpact h
  have once : a.effect.count * (1 : Nat) = a.effect.count := by simp
  simp only [ActiveEffect.gain] at gain
  split at gain
  · cases gain
    exact .cardResource
  · cases gain
    exact .cardResource
  · cases gain
    exact once ▸ Brings.resources a.effect.resource 1
  · cases gain
    exact once ▸ Brings.resources a.effect.resource 1
  · cases gain
    exact once ▸ Brings.production a.effect.resource 1
  · cases gain
    exact once ▸ Brings.production a.effect.resource 1
  · cases gain

theorem brings_of_onCard (h : a.onCard actor c owner = some o) : a.Brings owner o := by
  obtain ⟨-, ⟨-, rfl⟩ | ⟨-, rfl⟩⟩ := onCard_cases h
  · exact .resources _ _
  · exact .production _ _

theorem Brings.own (h : a.Brings owner o) : o.Own owner := by
  cases h with
  | cardResource => exact Operation.Minds.own (.inl rfl) nofun
  | resources => exact Operation.Minds.own (.inl rfl) nofun
  | production => exact Operation.Minds.own (.inl rfl) nofun

theorem Brings.quiet (h : a.Brings owner o) : o.addsPassive = false := by
  cases h <;> rfl

end ActiveEffect

end Terraforming
