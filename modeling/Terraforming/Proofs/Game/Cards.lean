import Mathlib.Algebra.Order.Group.Multiset
import Mathlib.Tactic.Abel
import Terraforming.Proofs.Card.Sameness
import Terraforming.Proofs.Game.Log
import Terraforming.Proofs.Game.Reading
import Terraforming.Proofs.Game.Sound
import Terraforming.Proofs.Random.Shuffle

/-!
# Where the cards are

A card is in a hand, in a pile or in play.  Consequences draw and shuffle; they leave what is in play
as it is, and the rest of the cards somewhere in the hands and piles.  Taking a card into play moves
just that card.

* `Game.loose` — the cards that are not in play;
* `Game.KeepsCards` — what consequences do (`keepsCards_executeAll`);
* `Game.CardEnters` — what taking a card into play does (`cardEnters_execute`).
-/

namespace Terraforming

/-- What a player has in play, and the number of the next card there. -/
def Player.inPlay (q : Player) : List PlayedCard × Int := (q.played, q.nextInstance)

/-- No consequence on the affairs of a player moves a card of theirs. -/
theorem Player.Becomes.keepsCards {p : PlayerId} {q q' : Player} {c : Command}
    (becomes : q.Becomes p c q') (consequence : c.isConsequence = true) :
    q'.hand = q.hand ∧ q'.inPlay = q.inPlay := by
  cases becomes with
  | intoPlay | purchase => cases consequence
  | _ => exact ⟨rfl, rfl⟩

namespace Game

variable {g g' g'' : Game} {p : PlayerId} {q q' : Player}

/-- The cards that are not in play: those in the hands and in the piles. -/
def loose (g : Game) : Multiset Card :=
  (g.players.values.flatMap (·.hand) : Multiset Card) + g.deck + g.discard

/-- What is in play stays as it is, and the other cards are still in some hand or pile. -/
structure KeepsCards (g g' : Game) : Prop where
  inPlay : ∀ p, (g'.player? p).map Player.inPlay = (g.player? p).map Player.inPlay
  loose : g'.loose = g.loose

namespace KeepsCards

theorem refl (g : Game) : g.KeepsCards g := ⟨fun _ => rfl, rfl⟩

theorem trans (h : g.KeepsCards g') (h' : g'.KeepsCards g'') : g.KeepsCards g'' :=
  ⟨fun p => (h'.inPlay p).trans (h.inPlay p), h'.loose.trans h.loose⟩

theorem of_same (players : g'.players = g.players) (deck : g'.deck = g.deck)
    (discard : g'.discard = g.discard) : g.KeepsCards g' := by
  constructor
  · intro p
    rw [player?, player?, players]
  · rw [Game.loose, Game.loose, players, deck, discard]

/-- A player who is there before has the same cards in play after. -/
theorem player (h : g.KeepsCards g') (hq : g.player? p = some q) :
    ∃ q', g'.player? p = some q' ∧ q'.inPlay = q.inPlay := by
  have same := h.inPlay p
  rw [hq] at same
  exact Option.map_eq_some_iff.1 same

end KeepsCards

/-! ## Changing one player -/

theorem inPlay_withPlayer (hq : g.player? p = some q) (same : q'.inPlay = q.inPlay)
    (p' : PlayerId) :
    ((g.withPlayer p q').player? p').map Player.inPlay = (g.player? p').map Player.inPlay := by
  rw [player?_withPlayer]
  split
  next here => rw [here, hq, Option.map_some, Option.map_some, same]
  next => rfl

/-- The loose cards change with the hand. -/
theorem loose_withPlayer (hq : g.player? p = some q) (q' : Player) :
    (g.withPlayer p q').loose + q.hand = g.loose + q'.hand := by
  obtain ⟨rest, before, after⟩ := Table.values_insert hq
  have held : (g.players.values.flatMap (·.hand) : Multiset Card) =
      q.hand + (rest.flatMap (·.hand) : Multiset Card) :=
    (Multiset.coe_eq_coe.2 (before.flatMap_right _)).trans (by simp)
  have holds : ((g.withPlayer p q').players.values.flatMap (·.hand) : Multiset Card) =
      q'.hand + (rest.flatMap (·.hand) : Multiset Card) :=
    (Multiset.coe_eq_coe.2 ((after q').flatMap_right _)).trans (by simp)
  rw [loose, loose, held, holds]
  show _ + (g.deck : Multiset Card) + g.discard + _ = _
  abel

theorem KeepsCards.withPlayer (hq : g.player? p = some q) (hand : q'.hand = q.hand)
    (inPlay : q'.inPlay = q.inPlay) : g.KeepsCards (g.withPlayer p q') := by
  refine ⟨inPlay_withPlayer hq inPlay, ?_⟩
  have := loose_withPlayer hq q'
  rwa [hand, add_left_inj] at this

theorem mem_loose_of_hand {c : Card} (hq : g.player? p = some q) (hc : c ∈ q.hand) : c ∈ g.loose := by
  have held : q ∈ g.players.values := List.mem_map.2 ⟨(p, q), Table.get?_eq_some_iff.1 hq, rfl⟩
  have mem : c ∈ g.players.values.flatMap (·.hand) := List.mem_flatMap.2 ⟨q, held, hc⟩
  simp [loose, mem]

theorem mem_cards_of_loose {c : Card} (hc : c ∈ g.loose) : c ∈ g.cards := by
  simp only [loose, Multiset.mem_add, Multiset.mem_coe, List.mem_flatMap] at hc
  simp only [cards, List.mem_append, List.mem_flatMap]
  rcases hc with (⟨q, hq, hc⟩ | hc) | hc
  · exact .inl (.inl ⟨q, hq, .inl hc⟩)
  · exact .inl (.inr hc)
  · exact .inr hc

/-! ## Drawing -/

/-- Dealt cards go from the deck to the hand. -/
theorem keepsCards_deal (hq : g.player? p = some q) (n : Nat) : g.KeepsCards (g.deal p q n) := by
  let drawn : Game := { g with deck := g.deck.drop n }
  have found : drawn.player? p = some q := hq
  refine ⟨inPlay_withPlayer found rfl, ?_⟩
  have moved : (g.deal p q n).loose + q.hand = drawn.loose + (q.hand ++ g.deck.take n : List Card) :=
    loose_withPlayer found _
  have deck : (g.deck.drop n : Multiset Card) + g.deck.take n = g.deck := by
    rw [add_comm, Multiset.coe_add, List.take_append_drop]
  have rest : drawn.loose + g.deck.take n = g.loose := by
    show _ + (g.deck.drop n : Multiset Card) + g.discard + g.deck.take n = _
    rw [loose, ← deck]
    abel
  refine add_right_cancel (b := (q.hand : Multiset Card)) ?_
  calc (g.deal p q n).loose + q.hand
      = drawn.loose + (q.hand ++ g.deck.take n : List Card) := moved
    _ = drawn.loose + g.deck.take n + q.hand := by
      rw [← Multiset.coe_add]
      abel
    _ = g.loose + q.hand := by rw [rest]

theorem keepsCards_reshuffle (g : Game) : g.KeepsCards g.reshuffle := by
  refine ⟨fun _ => rfl, ?_⟩
  have shuffled : ∀ generator : Generator,
      (generator.shuffle g.discard : Multiset Card) = g.discard := fun generator =>
    Multiset.coe_eq_coe.2 (generator.shuffle_perm g.discard)
  simp only [loose, reshuffle, ← Multiset.coe_add, shuffled, Multiset.coe_nil, add_zero, add_assoc]

/-! ## Commands and operations -/

theorem keepsCards_run {c : Command} (consequence : c.isConsequence = true) (h : g.run c = .ok g') :
    g.KeepsCards g' := by
  cases run_iff.1 h with
  | alone hq becomes =>
    obtain ⟨hand, inPlay⟩ := becomes.keepsCards consequence
    exact .withPlayer hq hand inPlay
  | dealt hq => exact keepsCards_deal hq _
  | reshuffled hq => exact (keepsCards_reshuffle g).trans (keepsCards_deal (g := g.reshuffle) hq _)
  | tile | temperature | oxygen => exact .of_same rfl rfl rfl
  | _ => cases consequence

theorem keepsCards_execute {o : Operation} (consequence : o.isConsequence = true)
    (h : g.execute o = .accepted g') : g.KeepsCards g' := by
  obtain ⟨c, g₁, hc, hr, rfl⟩ := execute_eq_accepted.1 h
  exact (keepsCards_run (Operation.isConsequence_of_command? hc consequence) hr).trans (.of_same rfl rfl rfl)

theorem keepsCards_executeAll {os : List Operation} (consequences : Operation.Consequences os)
    (h : g.executeAll os = .accepted g') : g.KeepsCards g' :=
  executeAll_keeps (I := g.KeepsCards) h
    (fun o ho _ _ keeps first => keeps.trans (keepsCards_execute (consequences o ho) first))
    (.refl g)

/-- Cards that are bought are new to the game. -/
theorem loose_purchase {cards : List Card} (h : g.execute (.purchaseCards p cards) = .accepted g') :
    g'.loose = g.loose + cards := by
  obtain ⟨c, g₁, hc, hr, rfl⟩ := execute_eq_accepted.1 h
  cases hc
  obtain ⟨q, mc, hq, -, -, rfl⟩ := purchaseCards_eq_ok.1 hr
  refine add_right_cancel (b := (q.hand : Multiset Card)) ?_
  refine (loose_withPlayer hq _).trans ?_
  rw [← Multiset.coe_add]
  show g.loose + ((q.hand : Multiset Card) + cards) = g.loose + cards + q.hand
  abel

/-! ## Taking a card into play -/

/-- Of a list that has a card one of those that compare equal to it is taken out. -/
theorem exists_cons_erase {cards : List Card} {c : Card} (h : cards.contains c = true) :
    ∃ d ∈ cards, (d == c) = true ∧ d ::ₘ (cards.erase c : Multiset Card) = cards := by
  induction cards with
  | nil => cases h
  | cons b cards ih =>
    rw [List.erase_cons]
    split
    next same => exact ⟨b, List.mem_cons_self, same, rfl⟩
    next other =>
      have later : cards.contains c = true := by
        rw [List.contains_cons, Bool.or_eq_true] at h
        exact h.resolve_left fun same => other (BEq.symm same)
      obtain ⟨d, hd, same, rest⟩ := ih later
      refine ⟨d, List.mem_cons_of_mem b hd, same, ?_⟩
      rw [← Multiset.cons_coe, Multiset.cons_swap, rest, Multiset.cons_coe]

/-- From `g` to `g'` the player `q`, who is `p`, takes the card `c` into play under the next id.  The
card leaves the hands and piles; what else is in play stays as it is. -/
structure CardEnters (g : Game) (p : PlayerId) (q : Player) (c : Card) (g' : Game) : Prop where
  inPlay : ∀ p', (g'.player? p').map Player.inPlay =
    if p' = p then some (q.played ++ [⟨q.nextInstance, c⟩], q.nextInstance + 1)
    else (g.player? p').map Player.inPlay
  taken : ∃ d : Card, (d == c) = true ∧ d ::ₘ g'.loose = g.loose

namespace CardEnters

variable {c : Card}

theorem after (h : g.CardEnters p q c g') (keeps : g'.KeepsCards g'') : g.CardEnters p q c g'' :=
  ⟨fun p' => (keeps.inPlay p').trans (h.inPlay p'), keeps.loose ▸ h.taken⟩

theorem before (h : g'.CardEnters p q' c g'') (keeps : g.KeepsCards g')
    (same : q'.inPlay = q.inPlay) : g.CardEnters p q c g'' := by
  have played : q'.played = q.played := congrArg Prod.fst same
  have next : q'.nextInstance = q.nextInstance := congrArg Prod.snd same
  refine ⟨fun p' => ?_, keeps.loose ▸ h.taken⟩
  rw [h.inPlay p', played, next, keeps.inPlay p']

/-- The player who took the card into play. -/
theorem player (h : g.CardEnters p q c g') :
    ∃ q', g'.player? p = some q' ∧ q'.played = q.played ++ [⟨q.nextInstance, c⟩] ∧
      q'.nextInstance = q.nextInstance + 1 := by
  have here := h.inPlay p
  rw [if_pos rfl] at here
  obtain ⟨q', hq', same⟩ := Option.map_eq_some_iff.1 here
  exact ⟨q', hq', congrArg Prod.fst same, congrArg Prod.snd same⟩

/-- Everybody else. -/
theorem other {p' : PlayerId} (h : g.CardEnters p q c g') (ne : p' ≠ p)
    (hq' : g'.player? p' = some q') :
    ∃ q₁, g.player? p' = some q₁ ∧ q'.inPlay = q₁.inPlay := by
  have same := h.inPlay p'
  rw [if_neg ne, hq'] at same
  obtain ⟨q₁, hq₁, same⟩ := Option.map_eq_some_iff.1 same.symm
  exact ⟨q₁, hq₁, same.symm⟩

end CardEnters

/-- The card that is taken into play leaves the hand. -/
theorem cardEnters_execute {c : Card} (hq : g.player? p = some q)
    (h : g.execute (.putCardIntoPlay p c q.nextInstance) = .accepted g') :
    g.CardEnters p q c g' := by
  obtain ⟨command, g₁, hc, hr, rfl⟩ := execute_eq_accepted.1 h
  cases hc
  suffices entered : g.CardEnters p q c g₁ from entered.after (.of_same rfl rfl rfl)
  obtain ⟨q₁, hq₁, holds, -, rfl⟩ := putIntoPlay_eq_ok.1 hr
  obtain rfl : q₁ = q := Option.some.inj (hq₁.symm.trans hq)
  constructor
  · intro p'
    rw [player?_withPlayer]
    split <;> rfl
  · obtain ⟨d, -, same, rest⟩ := exists_cons_erase holds
    refine ⟨d, same, add_right_cancel (b := (q₁.hand : Multiset Card)) ?_⟩
    calc d ::ₘ (g.withPlayer p _).loose + q₁.hand
        = d ::ₘ (g.loose + (q₁.hand.erase c : Multiset Card)) := by
          rw [Multiset.cons_add, loose_withPlayer hq₁]
      _ = g.loose + q₁.hand := by rw [← Multiset.add_cons, rest]

end Game

end Terraforming
