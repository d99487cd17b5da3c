import Terraforming.Proofs.Game.Cards
import Terraforming.Proofs.Game.Refusal

/-!
# The inventory

The cards of a game as far as they can be told apart: two cards that compare equal count as two of
one card.  Every operation only moves cards about, whether it is accepted or refused.  The one
exception is a purchase that is accepted, whose cards come into the hand of the buyer from nowhere.

* `Game.inventory` — the cards in hands, in play and in the piles, with how often each is there;
* `Game.inventory_withPlayer` — the inventory changes with the cards of the player who is replaced;
* `Game.inventory_execute`, `Game.inventory_executeAll` — no operation but a purchase changes it;
* `Game.buys_execute` — what a purchase does;
* `Game.exists_place` — a card that is there once is in one place, and in no other.
-/

namespace Terraforming

/-! ## Telling cards apart -/

/-- Cards with how often each of them is there. -/
def tally (cards : List Card) : Multiset Card := (cards.map Card.normal : List Card)

@[simp] theorem tally_nil : tally [] = 0 := rfl

@[simp] theorem tally_append (xs ys : List Card) : tally (xs ++ ys) = tally xs + tally ys := by
  simp [tally]

@[simp] theorem tally_cons (c : Card) (cs : List Card) :
    tally (c :: cs) = c.normal ::ₘ tally cs := by
  simp [tally]

theorem tally_eq_map (cs : List Card) : tally cs = (cs : Multiset Card).map Card.normal := rfl

theorem tally_perm {xs ys : List Card} (h : xs.Perm ys) : tally xs = tally ys :=
  Multiset.coe_eq_coe.2 (h.map _)

/-- A card that is taken out of a list is one of the cards of the list. -/
theorem tally_erase {cards : List Card} {c : Card} (h : cards.contains c = true) :
    c.normal ::ₘ tally (cards.erase c) = tally cards := by
  obtain ⟨d, -, same, rest⟩ := Game.exists_cons_erase h
  rw [tally_eq_map cards, ← rest, Multiset.map_cons, Card.beq_iff.1 same, tally_eq_map]

/-- None of the operations is a purchase. -/
def Operation.Unbought (os : List Operation) : Prop := ∀ o ∈ os, o.type ≠ .purchaseCards

/-- Where a card can be. -/
inductive Place where
  | hand (p : PlayerId)
  | play (p : PlayerId)
  | deck
  | discard
deriving DecidableEq

/-- The cards of a player, in the hand and in play. -/
def Player.cards (q : Player) : List Card := q.hand ++ q.played.map (·.card)

namespace Game

variable {g g' g'' left : Game} {p : PlayerId} {q q' : Player} {o : Operation} {f : Fault}

/-- The cards of a game with how often each of them is there. -/
def inventory (g : Game) : Multiset Card := tally g.cards

theorem inventory_eq (g : Game) :
    g.inventory = tally (g.players.values.flatMap Player.cards) + tally g.deck + tally g.discard := by
  rw [← tally_append, ← tally_append]
  rfl

/-! ## Changing one player -/

/-- The inventory changes with the cards of the player who is replaced. -/
theorem inventory_withPlayer (hq : g.player? p = some q) (q' : Player) :
    (g.withPlayer p q').inventory + tally q.cards = g.inventory + tally q'.cards := by
  obtain ⟨rest, before, after⟩ := Table.values_insert hq
  have held : tally (g.players.values.flatMap Player.cards) =
      tally q.cards + tally (rest.flatMap Player.cards) := by
    rw [tally_perm (before.flatMap_right _), List.flatMap_cons, tally_append]
  have holds : tally ((g.withPlayer p q').players.values.flatMap Player.cards) =
      tally q'.cards + tally (rest.flatMap Player.cards) := by
    rw [← tally_append, ← List.flatMap_cons]
    exact tally_perm ((after q').flatMap_right _)
  rw [inventory_eq, inventory_eq, held, holds]
  show _ + tally g.deck + tally g.discard + _ = _
  abel

theorem inventory_withPlayer_of_same (hq : g.player? p = some q)
    (same : tally q'.cards = tally q.cards) : (g.withPlayer p q').inventory = g.inventory := by
  have change := inventory_withPlayer hq q'
  rwa [same, add_left_inj] at change

/-! ## Keeping the cards -/

/-- The cards in play. -/
def inPlayCards (g : Game) : Multiset Card :=
  (g.players.values.flatMap fun q => q.played.map (·.card) : List Card)

/-- A card is in play, or in a hand or pile. -/
theorem coe_cards (g : Game) : (g.cards : Multiset Card) = g.loose + g.inPlayCards := by
  have apart : (g.players.values.flatMap Player.cards : Multiset Card) =
      (g.players.values.flatMap (·.hand) : List Card) + g.inPlayCards :=
    (Multiset.coe_eq_coe.2 (List.flatMap_append_perm _ _ _).symm).trans (Multiset.coe_add _ _).symm
  have places : (g.cards : Multiset Card) =
      (g.players.values.flatMap Player.cards : List Card) + g.deck + g.discard := by
    rw [Multiset.coe_add, Multiset.coe_add]
    rfl
  rw [places, apart, loose]
  abel

theorem KeepsCards.inPlayCards (keeps : g.KeepsCards g') : g'.inPlayCards = g.inPlayCards := by
  have tables : g'.players.mapValues Player.inPlay = g.players.mapValues Player.inPlay := by
    refine Table.ext_get? fun p => ?_
    rw [Table.get?_mapValues, Table.get?_mapValues]
    exact keeps.inPlay p
  have listed : ∀ g : Game, g.inPlayCards =
      ((g.players.mapValues Player.inPlay).values.flatMap fun e => e.1.map (·.card) : List Card) := by
    intro g
    simp [Game.inPlayCards, Table.mapValues, Table.values, Player.inPlay, List.flatMap_map]
  rw [listed g', listed g, tables]

/-- What leaves every card in play and the others somewhere in the hands and piles does not change
the inventory. -/
theorem KeepsCards.inventory (keeps : g.KeepsCards g') : g'.inventory = g.inventory := by
  rw [Game.inventory, Game.inventory, tally_eq_map, tally_eq_map, coe_cards, coe_cards, keeps.loose,
    keeps.inPlayCards]

/-! ## Cards that leave a hand -/

/-- The inventory when a card goes from the hand of a player to the pile. -/
theorem inventory_discarded {c : Card} (hq : g.player? p = some q) (held : q.holds c = true) :
    ({ g with discard := g.discard ++ [c] }.withPlayer p
      { q with hand := q.hand.erase c }).inventory = g.inventory := by
  let piled : Game := { g with discard := g.discard ++ [c] }
  let less : Player := { q with hand := q.hand.erase c }
  have pile : piled.inventory = c.normal ::ₘ g.inventory := by
    rw [inventory_eq, inventory_eq, tally_append, tally_cons, tally_nil]
    rw [Multiset.cons_zero, ← add_assoc, Multiset.add_comm, Multiset.singleton_add]
  have hand : c.normal ::ₘ tally less.cards = tally q.cards := by
    rw [Player.cards, Player.cards, tally_append, tally_append, ← Multiset.cons_add]
    exact congrArg (· + _) (tally_erase held)
  have found : piled.player? p = some q := hq
  have change := inventory_withPlayer found less
  rw [pile, ← hand, Multiset.add_cons, Multiset.cons_add, Multiset.cons_inj_right,
    add_left_inj] at change
  exact change

/-- Cards that are discarded are on the pile and no longer in the hand, also when one that comes
after them is not there. -/
theorem inventory_discardAll (cards : List Card) (hq : g.player? p = some q) :
    (discardAll p cards q g).game.inventory = g.inventory :=
  discardAll_keeps (I := fun h => h.inventory = g.inventory) cards hq
    (fun _ _ _ hq held same => (inventory_discarded hq held).trans same) rfl

theorem tally_putIntoPlay {c : Card} {i : Int} (held : q.holds c = true) :
    tally (Player.cards { q with
      hand := q.hand.erase c
      played := q.played ++ [⟨i, c⟩]
      nextInstance := i + 1 }) = tally q.cards := by
  simp only [Player.cards, List.map_append, List.map_cons, List.map_nil, tally_append, tally_cons,
    tally_nil]
  rw [← tally_erase held, Multiset.cons_zero, Multiset.cons_add, ← Multiset.singleton_add]
  abel

/-! ## Commands and operations -/

/-- What a purchase does to a game: the cards come into the hand of the buyer, behind those there,
and are paid for; nobody and nothing else changes. -/
structure Buys (g : Game) (p : PlayerId) (cards : List Card) (g' : Game) : Prop where
  buyer : ∃ q, g.player? p = some q ∧ g'.player? p = some { q with
    resources := q.resources.insert .megacredits
      (q.balance (some .megacredits) - cardPrice * cards.length)
    hand := q.hand ++ cards }
  others : ∀ p', p' ≠ p → g'.player? p' = g.player? p'
  deck : g'.deck = g.deck
  discard : g'.discard = g.discard

theorem buys_purchaseCards {cards : List Card} (h : g.purchaseCards p cards = .ok g') :
    g.Buys p cards g' ∧ g'.inventory = g.inventory + tally cards := by
  obtain ⟨q, mc, hq, hmc, -, rfl⟩ := purchaseCards_eq_ok.1 h
  have balance : q.balance (some .megacredits) = mc := by
    simp [Player.balance, Pool.amount, Table.getD, hmc]
  constructor
  · refine ⟨⟨q, hq, ?_⟩, fun p' ne => ?_, rfl, rfl⟩
    · rw [player?_withPlayer, if_pos rfl, balance]
    · rw [player?_withPlayer, if_neg ne]
  · refine add_right_cancel (b := tally q.cards) ((inventory_withPlayer hq _).trans ?_)
    simp only [Player.cards, tally_append]
    abel

/-- A command that is carried out and is no purchase only moves cards about. -/
theorem inventory_run {c : Command} (h : g.run c = .ok g')
    (unbought : ∀ p cards, c ≠ .purchaseCards p cards) : g'.inventory = g.inventory := by
  cases run_iff.1 h with
  | @alone c p q q' hq becomes =>
    have same : tally q'.cards = tally q.cards := by
      cases becomes with
      | intoPlay held => exact tally_putIntoPlay held
      | purchase => exact absurd rfl (unbought _ _)
      | _ => rfl
    exact inventory_withPlayer_of_same hq same
  | dealt hq => exact (keepsCards_deal hq _).inventory
  | @reshuffled p q count hq =>
    have drawn := keepsCards_deal (g := g.reshuffle) hq count.toNat
    exact ((keepsCards_reshuffle g).trans drawn).inventory
  | discarded hq => exact inventory_discardAll _ hq
  | untapped =>
    refine KeepsCards.inventory ⟨fun p => ?_, ?_⟩
    · rw [player?, resetCardActions, Table.get?_mapValues, Option.map_map]
      rfl
    · simp [loose, resetCardActions, Table.mapValues, Table.values, List.flatMap_map]
  | _ => rfl

/-- What a refusal leaves has the cards that there were. -/
theorem inventory_refused (h : g.execute o = .refused f left) : left.inventory = g.inventory := by
  obtain rfl | ⟨p, q, cards, hq, rfl⟩ := left_of_refused h
  · rfl
  · exact inventory_discardAll cards hq

/-- **An operation only moves cards about**, whether it is accepted or not, unless it is a
purchase. -/
theorem inventory_execute (unbought : o.type ≠ .purchaseCards) :
    (g.execute o).game.inventory = g.inventory := by
  cases h : g.execute o with
  | accepted g' =>
    obtain ⟨c, g₁, hc, hr, rfl⟩ := execute_eq_accepted.1 h
    show g₁.inventory = g.inventory
    refine inventory_run hr fun p cards purchase => unbought ?_
    rw [purchase] at hc
    exact List.mem_singleton.1 (Operation.type_of_command? hc)
  | refused f left => exact inventory_refused h

/-- A purchase that is accepted brings its cards into the game, into the hand of the buyer. -/
theorem buys_execute (purchase : o.type = .purchaseCards) (h : g.execute o = .accepted g') :
    ∃ p, o.player = some p ∧ g.Buys p o.cards g' ∧
      g'.inventory = g.inventory + tally o.cards := by
  obtain ⟨c, g₁, hc, hr, rfl⟩ := execute_eq_accepted.1 h
  have complete := Operation.command?_eq_ok.1 hc
  simp only [Operation.complete?, purchase, Option.bind_eq_bind, Option.bind_eq_some_iff] at complete
  obtain ⟨p, hp, ⟨⟩⟩ := complete
  obtain ⟨⟨buyer, others, deck, discard⟩, brought⟩ := buys_purchaseCards hr
  exact ⟨p, hp, ⟨buyer, others, deck, discard⟩, brought⟩

/-- So do operations one after the other, up to the first that is refused and including it. -/
theorem inventory_executeAll {os : List Operation} (unbought : Operation.Unbought os) :
    (g.executeAll os).game.inventory = g.inventory :=
  game_executeAll_keeps (I := fun g' => g'.inventory = g.inventory)
    (fun o ho _ same => (inventory_execute (unbought o ho)).trans same) rfl

/-! ## Places -/

/-- The cards in a place. -/
def cardsAt (g : Game) : Place → List Card
  | .hand p => ((g.player? p).map (·.hand)).getD []
  | .play p => ((g.player? p).map fun q => q.played.map (·.card)).getD []
  | .deck => g.deck
  | .discard => g.discard

/-- The places that there are in a game. -/
def places (g : Game) : List Place :=
  g.playerIds.flatMap (fun p => [.hand p, .play p]) ++ [.deck, .discard]

theorem nodup_places (g : Game) : g.places.Nodup := by
  have seats : (g.playerIds.flatMap fun p => [Place.hand p, Place.play p]).Nodup := by
    refine List.nodup_flatMap.2 ⟨fun p _ => by simp, ?_⟩
    refine g.players.nodup_keys.imp fun {p p'} ne => ?_
    simp [Function.onFun, Ne.symm ne]
  refine List.nodup_append.2 ⟨seats, by simp, ?_⟩
  rintro x hx y hy rfl
  obtain ⟨p, -, hp⟩ := List.mem_flatMap.1 hx
  simp only [List.mem_cons, List.not_mem_nil, or_false] at hp hy
  rcases hp with rfl | rfl <;> simp at hy

/-- Every card is in one of the places. -/
theorem cards_eq_flatMap (g : Game) : g.cards = g.places.flatMap g.cardsAt := by
  have owned : g.players.values.flatMap Player.cards =
      g.playerIds.flatMap fun p => g.cardsAt (.hand p) ++ g.cardsAt (.play p) := by
    rw [Table.values, playerIds, Table.keys, List.flatMap_map, List.flatMap_map]
    refine List.flatMap_congr fun e he => ?_
    have found : g.player? e.1 = some e.2 := Table.get?_eq_some_iff.2 he
    simp [cardsAt, found, Player.cards]
  have all : g.cards = g.players.values.flatMap Player.cards ++ g.deck ++ g.discard := rfl
  rw [all, owned]
  simp [places, List.flatMap_append, List.flatMap_assoc, cardsAt]

theorem cardsAt_eq_nil {x : Place} (absent : x ∉ g.places) : g.cardsAt x = [] := by
  cases x with
  | hand p | play p =>
    have missing : g.player? p = none := by
      refine Option.not_isSome_iff_eq_none.1 fun there => absent ?_
      refine List.mem_append_left _ (List.mem_flatMap.2 ⟨p, Table.mem_keys.2 there, by simp⟩)
    simp [cardsAt, missing]
  | deck | discard => exact absurd (List.mem_append_right _ (by simp)) absent

theorem count_eq_count_tally (c : Card) (cards : List Card) :
    cards.count c = (tally cards).count c.normal := by
  induction cards with
  | nil => rfl
  | cons d ds ih =>
    rw [List.count_cons, tally_cons, Multiset.count_cons, ih]
    by_cases same : (d == c) = true
    · rw [if_pos same, if_pos (Card.beq_iff.1 same).symm]
    · rw [if_neg same, if_neg fun h => same (Card.beq_iff.2 h.symm)]

/-- What is once in some lists together is once in one of them, and in no other. -/
theorem exists_of_count_flatMap {f : Place → List Card} {c : Card} {xs : List Place}
    (nodup : xs.Nodup) (once : (xs.flatMap f).count c = 1) :
    ∃ x ∈ xs, (f x).count c = 1 ∧ ∀ y ∈ xs, y ≠ x → (f y).count c = 0 := by
  induction xs with
  | nil => cases once
  | cons x xs ih =>
    obtain ⟨fresh, nodup⟩ := List.nodup_cons.1 nodup
    rw [List.flatMap_cons, List.count_append] at once
    rcases Nat.eq_zero_or_pos ((f x).count c) with absent | here
    · obtain ⟨x', hx', one, others⟩ := ih nodup (by omega)
      refine ⟨x', List.mem_cons_of_mem _ hx', one, fun y hy ne => ?_⟩
      rcases List.mem_cons.1 hy with rfl | hy
      · exact absent
      · exact others y hy ne
    · have none : (xs.flatMap f).count c = 0 := by omega
      refine ⟨x, List.mem_cons_self, by omega, fun y hy ne => ?_⟩
      have later : y ∈ xs := (List.mem_cons.1 hy).resolve_left ne
      rw [List.count_flatMap, List.sum_eq_zero_iff_forall_eq_nat] at none
      exact none _ (List.mem_map.2 ⟨y, later, rfl⟩)

/-- A card that a game has once is once in one place, and not at all in any other. -/
theorem exists_place {c : Card} (once : g.inventory.count c.normal = 1) :
    ∃ x, (g.cardsAt x).count c = 1 ∧ ∀ y, y ≠ x → (g.cardsAt y).count c = 0 := by
  rw [inventory, ← count_eq_count_tally, cards_eq_flatMap] at once
  obtain ⟨x, -, one, others⟩ := exists_of_count_flatMap g.nodup_places once
  refine ⟨x, one, fun y ne => ?_⟩
  by_cases there : y ∈ g.places
  · exact others y there ne
  · rw [cardsAt_eq_nil there]
    rfl

end Game

end Terraforming
