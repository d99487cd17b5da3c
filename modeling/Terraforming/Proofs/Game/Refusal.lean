import Terraforming.Catalog.Design
import Terraforming.Proofs.Game.Reading
import Terraforming.Proofs.Game.Sound

/-!
# What a refusal leaves

An operation that is refused leaves the game as it was, with one exception: a discard goes card by
card, and when a card is not in the hand, those before it are on the pile already.

* `GivesUp` — the cards that a hand gives up in turn, and what is left of it;
* `Game.DiscardsPartly` — a discard that stops half way, and what it leaves;
* `Game.refused_changed_iff` — only such a discard leaves a game other than it was.
-/

namespace Terraforming

/-! ## Giving cards up -/

/-- A hand gives up cards one after the other, and this is what is left of it. -/
inductive GivesUp : (hand cards left : List Card) → Prop
  | nil (hand : List Card) : GivesUp hand [] hand
  | cons {hand cs left : List Card} {c : Card} : hand.contains c = true →
      GivesUp (hand.erase c) cs left → GivesUp hand (c :: cs) left

/-- Of some cards a hand gives up all, or those before one that it does not hold. -/
theorem exists_givesUp (hand cards : List Card) :
    ∃ gone rest left, cards = gone ++ rest ∧ GivesUp hand gone left ∧
      ∀ c ∈ rest.head?, left.contains c = false := by
  induction cards generalizing hand with
  | nil => exact ⟨[], [], hand, rfl, .nil hand, fun c hc => nomatch hc⟩
  | cons c cs ih =>
    cases held : hand.contains c with
    | false =>
      refine ⟨[], c :: cs, hand, rfl, .nil hand, fun d hd => ?_⟩
      obtain rfl : c = d := Option.some.inj hd
      exact held
    | true =>
      obtain ⟨gone, rest, left, rfl, gives, missing⟩ := ih (hand.erase c)
      exact ⟨c :: gone, rest, left, rfl, .cons held gives, missing⟩

namespace Game

variable {g left : Game} {p : PlayerId} {q : Player} {o : Operation} {f : Fault}

theorem withPlayer_withPlayer (q q' : Player) :
    (g.withPlayer p q).withPlayer p q' = g.withPlayer p q' := by
  have same : (g.players.insert p q).insert p q' = g.players.insert p q' := by
    refine Table.ext_get? fun k => ?_
    rw [Table.get?_insert, Table.get?_insert, Table.get?_insert]
    split <;> rfl
  simp only [withPlayer, same]

theorem withPlayer_self (hq : g.player? p = some q) : g.withPlayer p q = g := by
  have same : g.players.insert p q = g.players := by
    refine Table.ext_get? fun k => ?_
    rw [Table.get?_insert]
    split
    next here => rw [here, ← hq, player?]
    next => rfl
  simp only [withPlayer, same]

/-- The game when `p` has put the cards `gone` on the pile and still holds the cards `hand`. -/
def afterDiscard (g : Game) (p : PlayerId) (q : Player) (gone hand : List Card) : Game :=
  { g with discard := g.discard ++ gone }.withPlayer p { q with hand }

theorem afterDiscard_nil (hq : g.player? p = some q) : g.afterDiscard p q [] q.hand = g := by
  rw [afterDiscard, List.append_nil]
  exact withPlayer_self hq

/-- Cards that the hand gives up are discarded, and then it is the turn of the others. -/
theorem discardAll_append {gone hand : List Card} (hq : g.player? p = some q)
    (gives : GivesUp q.hand gone hand) (rest : List Card) :
    discardAll p (gone ++ rest) q g =
      discardAll p rest { q with hand } (g.afterDiscard p q gone hand) := by
  generalize start : q.hand = before at gives
  induction gives generalizing q g with
  | nil hand =>
    subst start
    rw [afterDiscard_nil hq]
    rfl
  | @cons before cs left c held gives ih =>
    subst start
    have here : q.holds c = true := held
    rw [List.cons_append, discardAll, if_pos here,
      ih (q := { q with hand := q.hand.erase c }) (player?_withPlayer.trans (if_pos rfl)) rfl]
    congr 1
    have piled : g.discard ++ [c] ++ cs = g.discard ++ c :: cs := by simp
    rw [afterDiscard, afterDiscard, ← piled]
    exact withPlayer_withPlayer (g := { g with discard := g.discard ++ [c] ++ cs }) _ _

/-! ## Discards that stop half way -/

/-- A discard that stops half way: the hand of its player gave up the cards `gone`, of which there
are some, and did not hold the next card.  What it leaves has those cards on the pile and is
otherwise the game as it was. -/
def DiscardsPartly (g : Game) (o : Operation) (f : Fault) (left : Game) : Prop :=
  ∃ p q gone c rest hand, o.type = .discardCards ∧ o.player = some p ∧ g.player? p = some q ∧
    o.cards = gone ++ c :: rest ∧ gone ≠ [] ∧ GivesUp q.hand gone hand ∧
    hand.contains c = false ∧ f = .violation (.notInHand c.name p) ∧
    left = g.afterDiscard p q gone hand

/-- Such a discard is refused, and what it leaves is not the game as it was. -/
theorem DiscardsPartly.refused (h : g.DiscardsPartly o f left) :
    g.execute o = .refused f left ∧ left ≠ g := by
  obtain ⟨p, q, gone, c, rest, hand, type, player, hq, cards, some, gives, missing, rfl, rfl⟩ := h
  have read : o.command? = .ok (.discardCards p (gone ++ c :: rest)) :=
    Operation.command?_eq_discardCards.2 ⟨type, player, cards⟩
  have stops : discardAll p (gone ++ c :: rest) q g =
      .refused (.violation (.notInHand c.name p)) (g.afterDiscard p q gone hand) := by
    rw [discardAll_append hq gives, discardAll, Player.holds, missing]
    rfl
  constructor
  · simp only [execute, read, run, leftBy, player_eq_ok.2 hq, hq, ok_bind, stops,
      Outcome.toExcept, Outcome.game]
  · intro same
    have pile : g.discard ++ gone = g.discard := congrArg Game.discard same
    exact some (List.append_right_eq_self.1 pile)

/-- **A refusal changes nothing**, unless it is that of a discard which stops half way: just these
are refused and leave another game than there was. -/
theorem refused_changed_iff (g : Game) (o : Operation) (f : Fault) (left : Game) :
    g.execute o = .refused f left ∧ left ≠ g ↔ g.DiscardsPartly o f left := by
  refine ⟨?_, DiscardsPartly.refused⟩
  rintro ⟨refused, changed⟩
  unfold execute at refused
  split at refused
  next v hv =>
    cases refused
    exact absurd rfl changed
  next c hc =>
    split at refused
    next g' hr => cases refused
    next f' hr =>
      cases refused
      cases c with
      | discardCards p cards =>
        obtain ⟨type, player, rfl⟩ := Operation.command?_eq_discardCards.1 hc
        cases hq : g.player? p with
        | none =>
          simp only [leftBy, hq] at changed
          exact absurd rfl changed
        | some q =>
          obtain ⟨gone, rest, hand, cards, gives, missing⟩ := exists_givesUp q.hand o.cards
          have stops := discardAll_append hq gives rest
          rw [← cards] at stops
          simp only [run, player_eq_ok.2 hq, ok_bind, stops] at hr
          simp only [leftBy, hq, stops] at changed ⊢
          cases rest with
          | nil => cases hr
          | cons c rest =>
            have absent : hand.contains c = false := missing c rfl
            rw [discardAll, Player.holds, absent] at hr changed ⊢
            cases hr
            refine ⟨p, q, gone, c, rest, hand, type, player, hq, cards, ?_, gives, absent, rfl, rfl⟩
            rintro rfl
            cases gives
            exact changed (afterDiscard_nil hq)
      | _ => exact absurd rfl changed

theorem sponsors_flawless :
    (Design.text .automatic "Sponsors" [.earth] 6 { production := [(.megacredits, 2)] }).flaw? =
      none := by
  decide

/-- A card that raises the megacredit production of its owner. -/
def sponsors : Card :=
  Design.card .automatic "Sponsors" [.earth] 6 { production := [(.megacredits, 2)] } sponsors_flawless

theorem mine_flawless :
    (Design.text .automatic "Mine" [.building] 4 { production := [(.steel, 1)] }).flaw? = none := by
  decide

/-- A card that raises the steel production of its owner. -/
def mine : Card :=
  Design.card .automatic "Mine" [.building] 4 { production := [(.steel, 1)] } mine_flawless

/-- A game of one player who holds one card. -/
def singleCard : Game where
  board := .standard
  players := Table.ofList [(1, { id := 1, hand := [sponsors] })]

/-- Of the two cards to be discarded in `singleCard` only the first is there: the operation is
refused, and that card is on the pile. -/
theorem refused_after_one_card :
    ∃ f left, singleCard.execute (.discardCards 1 [sponsors, mine]) = .refused f left ∧
      left.discard = [sponsors] ∧ left ≠ singleCard := by
  have hq : singleCard.player? 1 = some { id := 1, hand := [sponsors] } := by decide +kernel
  have gives : GivesUp [sponsors] [sponsors] [] := .cons (by decide +kernel) (.nil _)
  have partly : singleCard.DiscardsPartly (.discardCards 1 [sponsors, mine])
      (.violation (.notInHand mine.name 1)) (singleCard.afterDiscard 1 _ [sponsors] []) :=
    ⟨1, _, [sponsors], mine, [], [], rfl, rfl, hq, rfl, List.cons_ne_nil _ _, gives, rfl, rfl, rfl⟩
  obtain ⟨refused, changed⟩ := partly.refused
  exact ⟨_, _, refused, rfl, changed⟩

end Game

end Terraforming
