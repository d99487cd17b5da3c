import Terraforming.Proofs.Card.Sameness
import Terraforming.Proofs.Game.Log
import Terraforming.Proofs.Game.Reading
import Terraforming.Proofs.Random.Shuffle

/-!
# The same game

The normal form of a game has every card in normal form.  No consequence sees the difference, and
nor does taking a card into play: the normal form of what they lead to is what they lead to from
the normal form.

* `Player.normal_balance` and the lemmas after it — what a normal form shows;
* `Game.run_normal`, `Game.execute_normal` — commands and operations.
-/

namespace Terraforming

/-! ## Players -/

/-- A card in play, in normal form. -/
def PlayedCard.normal (c : PlayedCard) : PlayedCard := { c with card := c.card.normal }

namespace Player

variable (q : Player)

@[simp] theorem normal_played : q.normal.played = q.played.map PlayedCard.normal := rfl

@[simp] theorem normal_balance (r : Option Resource) : q.normal.balance r = q.balance r := rfl

@[simp] theorem normal_productionOf (r : Option Resource) :
    q.normal.productionOf r = q.productionOf r := rfl

@[simp] theorem normal_productionFloor (r : Option Resource) :
    q.normal.productionFloor r = q.productionFloor r := rfl

@[simp] theorem normal_canReduceProduction (r : Option Resource) (n : Int) :
    q.normal.canReduceProduction r n = q.canReduceProduction r n := rfl

@[simp] theorem normal_held (i : Int) (kind : Option CardResource) :
    q.normal.held i kind = q.held i kind := rfl

@[simp] theorem normal_played? (i : Int) :
    q.normal.played? i = (q.played? i).map PlayedCard.normal :=
  List.find?_map ..

theorem contains_normal (cards : List Card) (c : Card) :
    (cards.map Card.normal).contains c.normal = cards.contains c := by
  induction cards with
  | nil => rfl
  | cons d cards ih =>
    rw [List.map_cons, List.contains_cons, List.contains_cons, ih, Card.normal_beq_normal]

@[simp] theorem normal_holds (c : Card) : q.normal.holds c.normal = q.holds c :=
  contains_normal q.hand c

theorem erase_normal (cards : List Card) (c : Card) :
    (cards.map Card.normal).erase c.normal = (cards.erase c).map Card.normal := by
  induction cards with
  | nil => rfl
  | cons d cards ih =>
    rw [List.map_cons, List.erase_cons, List.erase_cons, Card.normal_beq_normal]
    split
    · rfl
    · rw [ih, List.map_cons]

@[simp] theorem normal_tagCount (tag : Option CardTag) : q.normal.tagCount tag = q.tagCount tag := by
  have tags : q.normal.tagsInPlay tag = q.tagsInPlay tag := by
    rw [tagsInPlay, tagsInPlay, normal_played, List.filter_map, List.map_map]
    rfl
  rw [tagCount, tagCount, tags]

end Player

/-! ## Games -/

namespace Game

variable (g : Game) (p : PlayerId)

@[simp] theorem normal_board : g.normal.board = g.board := rfl

theorem normal_player? : g.normal.player? p = (g.player? p).map Player.normal :=
  Table.get?_mapValues Player.normal

theorem normal_player : g.normal.player p = (g.player p).map Player.normal := by
  rw [player, player, normal_player?]
  cases g.player? p <;> rfl

theorem normal_withPlayer (q : Player) :
    (g.withPlayer p q).normal = g.normal.withPlayer p q.normal := by
  have players : (g.players.insert p q).mapValues Player.normal =
      (g.players.mapValues Player.normal).insert p q.normal := Table.mapValues_insert Player.normal
  show Game.mk _ ((g.players.insert p q).mapValues Player.normal) _ _ _ _ _ _ _ _ = _
  rw [players]
  rfl

theorem normal_reshuffle : g.normal.reshuffle = g.reshuffle.normal := by
  have shuffled : ∀ generator : Generator,
      g.deck.map Card.normal ++ generator.shuffle (g.discard.map Card.normal) =
        (g.deck ++ generator.shuffle g.discard).map Card.normal := fun generator => by
    rw [generator.shuffle_map, List.map_append]
  simp only [reshuffle, normal, shuffled, List.map_nil]

theorem normal_deal (q : Player) (n : Nat) :
    g.normal.deal p q.normal n = (g.deal p q n).normal := by
  have hand : { q.normal with hand := q.normal.hand ++ g.normal.deck.take n } =
      { q with hand := q.hand ++ g.deck.take n }.normal := by
    simp only [Player.normal, normal, List.map_append, List.map_take]
  have deck : { g.normal with deck := g.normal.deck.drop n } =
      { g with deck := g.deck.drop n }.normal := by
    simp only [normal, List.map_drop]
  rw [deal, deal, hand, deck, normal_withPlayer]

/-! ## Commands -/

variable {g p}

theorem update_normal {f : Player → Player} (commutes : ∀ q : Player, f q.normal = (f q).normal) :
    g.normal.update p f = (g.update p f).map normal := by
  rw [update, update, normal_player]
  cases g.player p with
  | error e => rfl
  | ok q =>
    show Except.ok (g.normal.withPlayer p (f q.normal)) = .ok (g.withPlayer p (f q)).normal
    rw [commutes, normal_withPlayer]

theorem changeResources_normal (r : Resource) (delta : Int) :
    g.normal.changeResources p r delta = (g.changeResources p r delta).map normal := by
  rw [changeResources, changeResources, normal_player]
  cases g.player p with
  | error e => rfl
  | ok q =>
    by_cases short : q.balance (some r) + delta < 0
    · simp [Except.map, short]
    · simp only [Except.map, short, Player.normal_balance, ok_bind, pure_eq_ok, if_false,
        normal_withPlayer]
      rfl

theorem changeProduction_normal (r : Resource) (delta : Int) :
    g.normal.changeProduction p r delta = (g.changeProduction p r delta).map normal := by
  rw [changeProduction, changeProduction, normal_player]
  cases g.player p with
  | error e => rfl
  | ok q =>
    by_cases low : q.productionOf (some r) + delta < q.productionFloor (some r)
    · simp [Except.map, low]
    · simp only [Except.map, low, Player.normal_productionOf, Player.normal_productionFloor, ok_bind,
        pure_eq_ok, if_false, normal_withPlayer]
      rfl

theorem changeCardResource_normal (i : Int) (kind : CardResource) (delta : Int) :
    g.normal.changeCardResource p i kind delta =
      (g.changeCardResource p i kind delta).map normal := by
  rw [changeCardResource, changeCardResource, normal_player]
  cases g.player p with
  | error e => rfl
  | ok q =>
    cases found : q.played? i with
    | none => simp [Except.map, found]
    | some c =>
      have kinds : c.normal.card.supportedResource? = c.card.supportedResource? := rfl
      have name : c.normal.card.name = c.card.name := rfl
      by_cases other : c.card.supportedResource? = some kind
      · by_cases short : q.held i (some kind) + delta < 0
        · simp [Except.map, found, kinds, other, short, name]
        · simp only [Except.map, Player.normal_played?, found, Option.map_some, kinds, other,
            Player.normal_held, short, ne_eq, not_true_eq_false, if_false, ok_bind, pure_eq_ok,
            normal_withPlayer]
          rfl
      · simp [Except.map, found, kinds, other, name]

theorem draw_normal (count : Int) : g.normal.draw p count = (g.draw p count).map normal := by
  have deck : g.normal.deck.length = g.deck.length := List.length_map ..
  have discard : g.normal.discard.length = g.discard.length := List.length_map ..
  rw [draw, draw, normal_player]
  cases g.player p with
  | error e => rfl
  | ok q =>
    by_cases negative : count < 0
    · simp [Except.map, negative]
    · by_cases enough : count ≤ g.deck.length
      · simp [Except.map, negative, deck, enough, normal_deal]
      · by_cases all : count ≤ g.deck.length + g.discard.length
        · simp [Except.map, negative, deck, discard, enough, all, normal_deal, normal_reshuffle]
        · simp [Except.map, negative, deck, discard, enough, all]

theorem addEffect_normal (source : Option Int) (e : Effect) :
    g.normal.addEffect p source e = (g.addEffect p source e).map normal := by
  rw [addEffect, addEffect, normal_player]
  cases g.player p with
  | error e => rfl
  | ok q =>
    cases found : source.filter fun i => (q.played? i).isSome with
    | none => simp [Except.map, found]
    | some i =>
      simp only [Except.map, Player.normal_played?, Option.isSome_map, found, ok_bind, pure_eq_ok,
        normal_withPlayer]
      rfl

theorem putIntoPlay_normal (c : Card) (i : Int) :
    g.normal.putIntoPlay p c.normal i = (g.putIntoPlay p c i).map normal := by
  rw [putIntoPlay, putIntoPlay, normal_player]
  cases g.player p with
  | error e => rfl
  | ok q =>
    have next : q.normal.nextInstance = q.nextInstance := rfl
    have name : c.normal.name = c.name := rfl
    cases held : q.holds c with
    | false => simp [Except.map, held, name]
    | true =>
      by_cases used : i < q.nextInstance
      · simp [Except.map, held, next, used]
      · have moved : ({ q with
            hand := q.hand.erase c
            played := q.played ++ [⟨i, c⟩]
            nextInstance := i + 1 } : Player).normal = { q.normal with
              hand := q.normal.hand.erase c.normal
              played := q.normal.played ++ [⟨i, c.normal⟩]
              nextInstance := i + 1 } := by
          simp [Player.normal, Player.erase_normal]
        simp [Except.map, held, next, used, normal_withPlayer, moved]

theorem run_normal {c : Command} (consequence : c.isConsequence = true) :
    g.normal.run c = (g.run c).map normal := by
  cases c with
  | changeResources p r delta => exact changeResources_normal r delta
  | changeProduction p r delta => exact changeProduction_normal r delta
  | changeCardResource p i kind delta => exact changeCardResource_normal i kind delta
  | drawCards p count => exact draw_normal count
  | placeTile l t =>
    show Except.map _ (g.board.place l t) = Except.map _ (Except.map _ _)
    cases g.board.place l t <;> rfl
  | raiseTemperature =>
    show Except.map _ g.board.raiseTemperature = Except.map _ (Except.map _ _)
    cases g.board.raiseTemperature <;> rfl
  | raiseOxygen =>
    show Except.map _ g.board.raiseOxygen = Except.map _ (Except.map _ _)
    cases g.board.raiseOxygen <;> rfl
  | raiseTerraformRating p n => exact update_normal fun q => rfl
  | addEffect p source e => exact addEffect_normal source e
  | addNextCardEffect p e => exact update_normal fun q => rfl
  | consumeNextCardEffects p => exact update_normal fun q => rfl
  | _ => cases consequence

/-! ## Operations -/

end Game

/-- A consequence names no card, so that it is its own normal form. -/
theorem Operation.normal_of_isConsequence {o : Operation} (consequence : o.isConsequence = true) :
    o.normal = o := by
  rw [isConsequence, Bool.and_eq_true, Bool.and_eq_true, Option.isNone_iff_eq_none,
    List.isEmpty_iff] at consequence
  obtain ⟨⟨-, card⟩, cards⟩ := consequence
  cases o
  cases card
  cases cards
  rfl

theorem Operation.Consequences.map_normal {os : List Operation} (follow : Consequences os) :
    os.map Operation.normal = os :=
  (List.map_congr_left fun o ho => normal_of_isConsequence (follow o ho)).trans (List.map_id os)

namespace Game

variable {g : Game} {o : Operation}

/-- What a command does alike, its operation does. -/
theorem execute_normal_of_run {c c' : Command} (hc : o.command? = .ok c)
    (hc' : o.normal.command? = .ok c') (alike : g.normal.run c' = (g.run c).map normal) :
    (g.normal.execute o.normal).toExcept = (g.execute o).toExcept.map normal := by
  rw [execute, execute, hc, hc']
  simp only [alike]
  cases g.run c with
  | error f => rfl
  | ok g' =>
    have log : (g'.log ++ [o]).map Operation.normal = g'.normal.log ++ [o.normal] :=
      List.map_append
    simp only [Except.map, Outcome.toExcept, normal, log]

theorem execute_normal (consequence : o.isConsequence = true) :
    (g.normal.execute o.normal).toExcept = (g.execute o).toExcept.map normal := by
  have same := Operation.normal_of_isConsequence consequence
  cases hc : o.command? with
  | error v =>
    rw [same, execute, execute, hc]
    rfl
  | ok c =>
    exact execute_normal_of_run hc (same.symm ▸ hc)
      (run_normal (Operation.isConsequence_of_command? hc consequence))

theorem execute_putCardIntoPlay_normal {p : PlayerId} (c : Card) (i : Int) :
    (g.normal.execute (Operation.putCardIntoPlay p c i).normal).toExcept =
      (g.execute (.putCardIntoPlay p c i)).toExcept.map normal :=
  execute_normal_of_run (o := .putCardIntoPlay p c i) rfl rfl (putIntoPlay_normal c i)

/-- Operations that are each carried out alike are carried out alike one after the other. -/
theorem executeAll_normal {os : List Operation} (alike : ∀ o ∈ os, ∀ g : Game,
      (g.normal.execute o.normal).toExcept = (g.execute o).toExcept.map normal) :
    (g.normal.executeAll (os.map Operation.normal)).toExcept =
      (g.executeAll os).toExcept.map normal := by
  induction os generalizing g with
  | nil => rfl
  | cons o os ih =>
    rw [List.map_cons, toExcept_executeAll_cons, toExcept_executeAll_cons,
      alike o List.mem_cons_self]
    cases (g.execute o).toExcept with
    | error f => rfl
    | ok g₁ => exact ih fun o' ho' => alike o' (List.mem_cons_of_mem o ho')

end Game

end Terraforming
