import Mathlib.Data.List.Nodup
import Terraforming.Player.Basic
import Terraforming.Proofs.Data.Table

/-!
# Sound players

A player is sound when no balance is negative, the cards in play have ids of their own below the
next one, and everything that refers to a card in play finds it there: resources lie on cards that
can hold them, used actions belong to cards with actions, effects come from cards.

Each change that a command makes to a player keeps this, under the condition that the command
checks.
-/

namespace Terraforming

namespace Pool

theorem amount_insert (p : Pool) (r r' : Resource) (n : Int) :
    Pool.amount (p.insert r n) r' = if r' = r then n else p.amount r' :=
  Table.getD_insert p r r' n 0

/-- A pool that lists every resource. -/
theorem amount_ofList (f : Resource → Int) (r : Resource) :
    Pool.amount (Table.ofList (Resource.all.map fun r => (r, f r))) r = f r := by
  have distinct : ((Resource.all.map fun r => (r, f r)).map (·.1)).Nodup := by
    rw [List.map_map, show Prod.fst ∘ (fun r => (r, f r)) = id from rfl, List.map_id]
    decide
  have found : (Table.ofList (Resource.all.map fun r => (r, f r))).get? r = some (f r) := by
    rw [Table.get?_ofList distinct]
    exact List.mem_map.2 ⟨r, by cases r <;> decide, rfl⟩
  rw [amount, Table.getD, found]
  rfl

@[simp] theorem amount_zero (r : Resource) : zero.amount r = 0 := amount_ofList (fun _ => 0) r

end Pool

namespace Player

variable {q q' : Player} {i : Int} {c : PlayedCard}

/-! ## Cards in play -/

theorem mem_of_played? (h : q.played? i = some c) : c ∈ q.played ∧ c.instanceId = i :=
  ⟨List.mem_of_find?_eq_some h, by simpa using List.find?_some h⟩

theorem played?_isSome : (q.played? i).isSome = true ↔ ∃ c ∈ q.played, c.instanceId = i := by
  simp [played?, List.find?_isSome]

theorem played?_of_mem (distinct : (q.played.map (·.instanceId)).Nodup) (hc : c ∈ q.played) :
    q.played? c.instanceId = some c := by
  obtain ⟨d, hd⟩ := Option.isSome_iff_exists.1 (played?_isSome.2 ⟨c, hc, rfl⟩)
  obtain ⟨mem, same⟩ := mem_of_played? hd
  rw [hd, List.inj_on_of_nodup_map distinct mem hc same]

/-- A card under an id that is not below the next one has an id of its own. -/
theorem distinct_concat (distinct : (q.played.map (·.instanceId)).Nodup)
    (below : ∀ c ∈ q.played, c.instanceId < q.nextInstance) (hi : q.nextInstance ≤ i)
    (card : Card) : ((q.played ++ [PlayedCard.mk i card]).map (·.instanceId)).Nodup := by
  rw [List.map_append, List.nodup_append]
  refine ⟨distinct, List.nodup_singleton _, ?_⟩
  rintro a ha b hb rfl
  obtain ⟨c, hc, rfl⟩ := List.mem_map.1 ha
  have old := below c hc
  have new : c.instanceId = i := List.mem_singleton.1 hb
  omega

theorem below_concat (below : ∀ c ∈ q.played, c.instanceId < q.nextInstance)
    (hi : q.nextInstance ≤ i) (card : Card) :
    ∀ c ∈ q.played ++ [PlayedCard.mk i card], c.instanceId < i + 1 := by
  intro c hc
  rcases List.mem_append.1 hc with hc | hc
  · have := below c hc
    omega
  · rw [List.mem_singleton.1 hc]
    exact Int.lt_succ i

/-! ## Soundness -/

/-- Nothing is owed, and whatever refers to a card in play finds it there. -/
structure Sound (q : Player) : Prop where
  balances : ∀ r, 0 ≤ q.resources.amount r
  distinct : (q.played.map (·.instanceId)).Nodup
  below : ∀ c ∈ q.played, c.instanceId < q.nextInstance
  held : ∀ h n, q.cardResources.get? h = some n →
    0 ≤ n ∧ ∃ c ∈ q.played, c.instanceId = h.instanceId ∧ c.card.supportedResource? = some h.kind
  tapped : ∀ i, q.tapped.contains i = true →
    ∃ c ∈ q.played, c.instanceId = i ∧ c.card.actions ≠ []
  sources : ∀ e ∈ q.effects, ∃ c ∈ q.played, c.instanceId = e.source

/-- A player who has nothing. -/
theorem sound_new (p : PlayerId) : ({ id := p } : Player).Sound := by
  refine ⟨?_, .nil, ?_, ?_, ?_, ?_⟩
  · intro r
    exact Int.le_of_eq (Pool.amount_zero r).symm
  · intro c hc
    cases hc
  · intro h n hn
    cases hn
  · intro i hi
    cases hi
  · intro e he
    cases he

namespace Sound

theorem held_nonneg (sound : q.Sound) (i : Int) (kind : Option CardResource) :
    0 ≤ q.held i kind := by
  cases kind with
  | none => exact Int.le_refl 0
  | some k =>
    show 0 ≤ q.cardResources.getD ⟨i, k⟩ 0
    rw [Table.getD]
    cases hn : q.cardResources.get? ⟨i, k⟩ with
    | none => exact Int.le_refl 0
    | some n => exact (sound.held _ n hn).1

/-- Production, hand, rating and the effects on the next card do not matter. -/
theorem of_same (sound : q.Sound) (resources : q'.resources = q.resources)
    (played : q'.played = q.played) (next : q'.nextInstance = q.nextInstance)
    (cardResources : q'.cardResources = q.cardResources) (tapped : q'.tapped = q.tapped)
    (effects : q'.effects = q.effects) : q'.Sound := by
  refine ⟨?_, ?_, ?_, ?_, ?_, ?_⟩
  · rw [resources]
    exact sound.balances
  · rw [played]
    exact sound.distinct
  · rw [played, next]
    exact sound.below
  · rw [played, cardResources]
    exact sound.held
  · rw [played, tapped]
    exact sound.tapped
  · rw [played, effects]
    exact sound.sources

theorem setBalance (sound : q.Sound) (r : Resource) {n : Int} (hn : 0 ≤ n) :
    { q with resources := q.resources.insert r n }.Sound := by
  refine ⟨?_, sound.distinct, sound.below, sound.held, sound.tapped, sound.sources⟩
  intro r'
  rw [Pool.amount_insert]
  split
  · exact hn
  · exact sound.balances r'

/-- The production phase. -/
theorem produced (sound : q.Sound) {f : Resource → Int} (hf : ∀ r, 0 ≤ f r) :
    { q with
      resources := Table.ofList (Resource.all.map fun r => (r, f r))
      tapped := ∅
      nextCardEffects := [] }.Sound := by
  refine ⟨?_, sound.distinct, sound.below, sound.held, ?_, sound.sources⟩
  · intro r
    rw [Pool.amount_ofList]
    exact hf r
  · intro i hi
    cases hi

theorem untapped (sound : q.Sound) : { q with tapped := ∅ }.Sound := by
  refine ⟨sound.balances, sound.distinct, sound.below, sound.held, ?_, sound.sources⟩
  intro i hi
  cases hi

/-- A card that comes into play under an id that is not below the next one. -/
theorem putIntoPlay (sound : q.Sound) (card : Card) (hi : q.nextInstance ≤ i) :
    { q with
      hand := q.hand.erase card
      played := q.played ++ [PlayedCard.mk i card]
      nextInstance := i + 1 }.Sound := by
  have keep : ∀ {P : PlayedCard → Prop}, (∃ c ∈ q.played, P c) →
      ∃ c ∈ q.played ++ [⟨i, card⟩], P c := by
    rintro P ⟨c, hc, hP⟩
    exact ⟨c, List.mem_append_left _ hc, hP⟩
  refine ⟨sound.balances, distinct_concat sound.distinct sound.below hi card,
    below_concat sound.below hi card, ?_, ?_, ?_⟩
  · intro h n hn
    exact ⟨(sound.held h n hn).1, keep (sound.held h n hn).2⟩
  · intro j hj
    exact keep (sound.tapped j hj)
  · intro e he
    exact keep (sound.sources e he)

/-- Resources of the kind that a card in play can hold. -/
theorem setHeld (sound : q.Sound) {kind : CardResource} {n : Int} (hc : q.played? i = some c)
    (holds : c.card.supportedResource? = some kind) (hn : 0 ≤ n) :
    { q with cardResources := q.cardResources.insert (Holding.mk i kind) n }.Sound := by
  obtain ⟨mem, id⟩ := mem_of_played? hc
  exact ⟨sound.balances, sound.distinct, sound.below,
    Table.forall_insert sound.held ⟨hn, c, mem, id, holds⟩, sound.tapped, sound.sources⟩

theorem tap (sound : q.Sound) (hc : q.played? i = some c) (actions : c.card.actions ≠ []) :
    { q with tapped := q.tapped.add i }.Sound := by
  refine ⟨sound.balances, sound.distinct, sound.below, sound.held, ?_, sound.sources⟩
  intro j hj
  rcases (Table.contains_insert q.tapped i j ()).1 hj with rfl | hj
  · obtain ⟨mem, id⟩ := mem_of_played? hc
    exact ⟨c, mem, id, actions⟩
  · exact sound.tapped j hj

theorem addEffect (sound : q.Sound) (e : Effect) (hc : (q.played? i).isSome = true) :
    { q with effects := q.effects ++ [ActiveEffect.mk i e] }.Sound := by
  refine ⟨sound.balances, sound.distinct, sound.below, sound.held, sound.tapped, ?_⟩
  intro a ha
  rcases List.mem_append.1 ha with ha | ha
  · exact sound.sources a ha
  · rw [List.mem_singleton.1 ha]
    exact played?_isSome.1 hc

end Sound

end Player

end Terraforming
