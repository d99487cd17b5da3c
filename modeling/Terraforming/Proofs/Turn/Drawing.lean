import Terraforming.Proofs.Game.Reading
import Terraforming.Proofs.Game.Refusal
import Terraforming.Proofs.Random.Shuffle
import Terraforming.Proofs.Turn.Progress

/-!
# Drawing cards

Cards come off the top of the deck.  When the deck is too short the discard pile is shuffled and goes
under what is left of it, once; when both piles are too short nothing is drawn.  Where the cards of the
pile come is a matter of the seed, of the shuffles before and of the pile itself.

* `Game.shuffled` — the pile as it goes under the deck, the same cards in an order of its own;
* `Game.execute_drawCards` — what becomes of the operation, in each of four cases;
* `Impact.drawable` — how many cards an impact draws, which are there (`Impact.emit_drawable`);
* `cards_drawn_in_order` — all of it, and that an impact that draws cards is always carried out.
-/

namespace Terraforming

namespace Game

variable {g : Game} {p : PlayerId} {q : Player} {o : Operation}

/-! ## The pile under the deck -/

/-- The pile as it goes under the deck in a game of this seed, after so many shuffles. -/
def shuffled (seed reshuffles : Int) (pile : List Card) : List Card :=
  (Generator.ofText (toString seed ++ "/" ++ toString reshuffles)).shuffle pile

/-- A shuffle loses no card. -/
theorem shuffled_perm (seed reshuffles : Int) (pile : List Card) :
    (shuffled seed reshuffles pile).Perm pile :=
  Generator.shuffle_perm _ pile

/-- What is left of the deck comes before the cards that were shuffled. -/
theorem take_shuffled {n : Nat} (short : g.deck.length < n) (pile : List Card) :
    (g.deck ++ pile).take n = g.deck ++ pile.take (n - g.deck.length) ∧
      (g.deck ++ pile).drop n = pile.drop (n - g.deck.length) := by
  have taken : g.deck.take n = g.deck := List.take_of_length_le (Nat.le_of_lt short)
  have dropped : g.deck.drop n = [] := List.drop_of_length_le (Nat.le_of_lt short)
  constructor
  · rw [List.take_append, taken]
  · rw [List.drop_append, dropped, List.nil_append]

/-! ## The operation -/

/-- What becomes of an operation that draws cards: it is refused if it draws less than nothing or more
than there is, and takes the cards off the deck, or off the deck with the pile shuffled under it. -/
def DrawsInOrder (g : Game) (p : PlayerId) (q : Player) (o : Operation) : Prop :=
  (o.count < 0 → g.execute o = .refused (.violation (.negativeDraw o.count)) g) ∧
  (g.deck.length + g.discard.length < o.count →
    g.execute o =
      .refused (.violation (.tooFewCards o.count g.deck.length g.discard.length)) g) ∧
  ∀ n : Nat, o.count = n →
    (n ≤ g.deck.length →
      g.execute o = .accepted { g with
        players := g.players.insert p { q with hand := q.hand ++ g.deck.take n }
        deck := g.deck.drop n
        log := g.log ++ [o] }) ∧
    (g.deck.length < n → n ≤ g.deck.length + g.discard.length →
      g.execute o = .accepted { g with
        players := g.players.insert p { q with
          hand := q.hand ++ (g.deck ++ shuffled g.seed g.reshuffles g.discard).take n }
        deck := (g.deck ++ shuffled g.seed g.reshuffles g.discard).drop n
        discard := []
        reshuffles := g.reshuffles + 1
        log := g.log ++ [o] })

theorem command?_drawCards (type : o.type = .drawCards) (player : o.player = some p) :
    o.command? = .ok (.drawCards p o.count) := by
  rw [Operation.command?_eq_ok, Operation.complete?, type, player]
  rfl

theorem draw_negative (hq : g.player? p = some q) {n : Int} (negative : n < 0) :
    g.draw p n = .error (.violation (.negativeDraw n)) := by
  rw [draw, player_eq_ok.2 hq, ok_bind, if_pos negative]
  rfl

theorem draw_tooMany (hq : g.player? p = some q) {n : Int}
    (many : g.deck.length + g.discard.length < n) :
    g.draw p n = .error (.violation (.tooFewCards n g.deck.length g.discard.length)) := by
  have positive : ¬n < 0 := by omega
  have deck : ¬n ≤ g.deck.length := by omega
  have both : ¬n ≤ g.deck.length + g.discard.length := by omega
  simp [draw, player_eq_ok.2 hq, positive, deck, both]

/-- A draw that cannot be made leaves the game alone. -/
theorem execute_drawCards_of_error {n : Int} {f : Fault} (read : o.command? = .ok (.drawCards p n))
    (failed : g.draw p n = .error f) : g.execute o = .refused f g := by
  rw [execute, read]
  dsimp only [run]
  rw [failed]
  rfl

/-- **What becomes of an operation that draws cards.** -/
theorem execute_drawCards (hq : g.player? p = some q) (type : o.type = .drawCards)
    (player : o.player = some p) : g.DrawsInOrder p q o := by
  have read := command?_drawCards type player
  refine ⟨fun negative => execute_drawCards_of_error read (draw_negative hq negative),
    fun many => execute_drawCards_of_error read (draw_tooMany hq many), fun n count => ?_⟩
  rw [count] at read
  have nonneg : (0 : Int) ≤ n := Int.natCast_nonneg n
  constructor
  · intro enough
    have drawn : g.draw p n = .ok (g.deal p q n) :=
      draw_eq_ok.2 ⟨q, hq, nonneg, .inl ⟨by exact_mod_cast enough, rfl⟩⟩
    exact execute_eq_accepted.2 ⟨_, _, read, drawn, rfl⟩
  · intro short enough
    have drawn : g.draw p n = .ok (g.reshuffle.deal p q n) :=
      draw_eq_ok.2 ⟨q, hq, nonneg,
        .inr ⟨by exact_mod_cast short, by exact_mod_cast enough, rfl⟩⟩
    exact execute_eq_accepted.2 ⟨_, _, read, drawn, rfl⟩

/-- As many cards as the two piles hold can be drawn. -/
theorem exists_execute_drawCards (hq : g.player? p = some q) {n : Nat}
    (few : n ≤ g.deck.length + g.discard.length) :
    ∃ g', g.execute (.drawCards p n) = .accepted g' := by
  obtain ⟨-, -, cases⟩ := execute_drawCards (o := .drawCards p n) hq rfl rfl
  obtain ⟨unshuffled, shuffled⟩ := cases n rfl
  rcases Nat.lt_or_ge g.deck.length n with short | enough
  · exact ⟨_, shuffled short few⟩
  · exact ⟨_, unshuffled enough⟩

end Game

/-! ## The impact -/

namespace Impact

variable {i : Impact} {actor : PlayerId} {source : Option Int} {q : Player} {t t' : Progress}
  {g : Game}

/-- How many cards an impact draws: as many as it says, if there are. -/
def drawable (i : Impact) (g : Game) : Nat := min i.count.toNat (g.deck.length + g.discard.length)

/-- An impact that draws cards draws those there are, and nothing at all if there are none. -/
theorem demand_drawCard (type : i.type = .drawCard) (count : 0 ≤ i.count) :
    i.demand g actor source =
      .ok (if i.drawable g = 0 then .skip else .perform [.drawCards actor (i.drawable g)]) := by
  have drawn : min i.count (g.deck.length + g.discard.length : Int) = i.drawable g := by
    rw [drawable]
    omega
  simp only [demand, type, demandCards, drawn, Int.natCast_eq_zero]

/-- What an impact draws is there to be drawn. -/
theorem emit_drawable (hq : t.game.player? actor = some q) :
    ∃ t', t.emit [.drawCards actor (i.drawable t.game)] = .ok t' := by
  obtain ⟨g', drawn⟩ := Game.exists_execute_drawCards hq (Nat.min_le_right i.count.toNat _)
  exact ⟨⟨g', _⟩, Progress.emit_eq_ok.2 ⟨Game.executeAll_singleton drawn, rfl⟩⟩

/-- Resolving and settling pass over an impact that has nothing to draw. -/
theorem drawCard_skipped (type : i.type = .drawCard) (count : 0 ≤ i.count)
    (nothing : i.drawable t.game = 0) (cs : List Choice) (is : List Impact) :
    resolve actor source cs (i :: is) t = resolve actor source cs is t ∧
      settleBonuses actor source cs (i :: is) t = settleBonuses actor source cs is t := by
  have skipped : i.demand t.game actor source = .ok .skip := by
    rw [demand_drawCard type count, if_pos nothing]
  constructor
  · rw [resolve, skipped]
    rfl
  · rw [settleBonuses, skipped]
    rfl

/-- Resolving and settling go on after the draw. -/
theorem drawCard_performed (type : i.type = .drawCard) (count : 0 ≤ i.count)
    (something : i.drawable t.game ≠ 0)
    (drawn : t.emit [.drawCards actor (i.drawable t.game)] = .ok t') (cs : List Choice)
    (is : List Impact) :
    resolve actor source cs (i :: is) t =
        (i.conclude actor t' >>= fun t => resolve actor source cs is t) ∧
      settleBonuses actor source cs (i :: is) t = settleBonuses actor source cs is t' := by
  have performs : i.demand t.game actor source =
      .ok (.perform [.drawCards actor (i.drawable t.game)]) := by
    rw [demand_drawCard type count, if_neg something]
  constructor
  · rw [resolve, performs]
    simp only [Demand.meet, drawn, ok_bind]
    cases i.conclude actor t' <;> rfl
  · rw [settleBonuses, performs]
    simp only [Demand.meet, drawn]

end Impact

/-- **Cards are drawn in order**: first those of the deck and then, if they are not enough, those of the
pile in the order that the seed, the shuffles before and the pile give.  An operation that draws less
than nothing or more than there is changes nothing; an impact never asks for that, and so its draw is
always carried out. -/
theorem cards_drawn_in_order :
    (∀ (seed reshuffles : Int) (pile : List Card),
      (Game.shuffled seed reshuffles pile).Perm pile) ∧
    (∀ (g : Game) (p : PlayerId) (q : Player) (o : Operation), g.player? p = some q →
      o.type = .drawCards → o.player = some p → g.DrawsInOrder p q o) ∧
    (∀ (g : Game) (n : Nat) (pile : List Card), g.deck.length < n →
      (g.deck ++ pile).take n = g.deck ++ pile.take (n - g.deck.length) ∧
        (g.deck ++ pile).drop n = pile.drop (n - g.deck.length)) ∧
    ∀ (i : Impact) (actor : PlayerId) (source : Option Int) (q : Player) (t : Progress),
      i.type = .drawCard → 0 ≤ i.count → t.game.player? actor = some q →
      (i.drawable t.game = 0 → ∀ cs is,
        Impact.resolve actor source cs (i :: is) t = Impact.resolve actor source cs is t ∧
          Impact.settleBonuses actor source cs (i :: is) t =
            Impact.settleBonuses actor source cs is t) ∧
      (i.drawable t.game ≠ 0 →
        ∃ t', t.emit [.drawCards actor (i.drawable t.game)] = .ok t' ∧ ∀ cs is,
          Impact.resolve actor source cs (i :: is) t =
              (i.conclude actor t' >>= fun t => Impact.resolve actor source cs is t) ∧
            Impact.settleBonuses actor source cs (i :: is) t =
              Impact.settleBonuses actor source cs is t') := by
  refine ⟨Game.shuffled_perm, fun g p q o hq type player => Game.execute_drawCards hq type player,
    fun g n pile short => Game.take_shuffled short pile, ?_⟩
  intro i actor source q t type count hq
  refine ⟨Impact.drawCard_skipped type count, fun something => ?_⟩
  obtain ⟨t', drawn⟩ := Impact.emit_drawable (i := i) hq
  exact ⟨t', drawn, Impact.drawCard_performed type count something drawn⟩

/-- A game of one player in which one card is left on the deck, and two lie on the pile. -/
def lastCards : Game where
  board := Board.Contents.board { spaces := [] }
  players := Table.ofList [(1, { id := 1 })]
  deck := [Game.sponsors]
  discard := [Game.mine, Game.mine]
  seed := 7

/-- In `lastCards` two cards can be drawn, one of the deck and one of the pile, and four cannot.  An
impact that draws five draws three. -/
theorem cards_drawn_in_order_last :
    lastCards.player? 1 = some { id := 1 } ∧
      (∃ g', lastCards.execute (.drawCards 1 2) = .accepted g' ∧ g'.reshuffles = 1 ∧
        g'.players.get? 1 = some { id := 1, hand := [Game.sponsors, Game.mine] }) ∧
      lastCards.execute (.drawCards 1 4) = .refused (.violation (.tooFewCards 4 1 2)) lastCards ∧
      ∃ t' : Progress, Progress.emit ⟨lastCards, []⟩ [.drawCards 1 3] = .ok t' := by
  obtain ⟨same, operation, order, impact⟩ := cards_drawn_in_order
  have hq : lastCards.player? 1 = some { id := 1 } := by decide +kernel
  have pile : Game.shuffled 7 0 [Game.mine, Game.mine] = [Game.mine, Game.mine] :=
    List.perm_replicate.1 (same 7 0 (List.replicate 2 Game.mine))
  obtain ⟨-, -, two⟩ := operation lastCards 1 _ (.drawCards 1 2) hq rfl rfl
  obtain ⟨-, tooMany, -⟩ := operation lastCards 1 _ (.drawCards 1 4) hq rfl rfl
  obtain ⟨-, draws⟩ := impact { type := .drawCard, count := 5 } 1 none _ ⟨lastCards, []⟩ rfl
    (by decide) hq
  obtain ⟨t', drawn, -⟩ := draws (by decide)
  refine ⟨hq, ⟨_, (two 2 rfl).2 (by decide) (by decide), rfl, ?_⟩, tooMany (by decide), t', drawn⟩
  rw [Table.get?_insert, if_pos rfl]
  have hand : (lastCards.deck ++ Game.shuffled lastCards.seed lastCards.reshuffles
      lastCards.discard).take 2 = [Game.sponsors, Game.mine] := by
    rw [(order lastCards 2 _ (by decide)).1]
    exact congrArg (fun pile => [Game.sponsors] ++ pile.take 1) pile
  rw [hand]
  rfl

end Terraforming
