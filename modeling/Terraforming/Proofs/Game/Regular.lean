import Terraforming.Proofs.Card.Ready
import Terraforming.Proofs.Game.Sound
import Terraforming.Proofs.Random.Shuffle

/-!
# Regular games

A game is regular when it is sound, every card in it is well made, productions are not below their
floor, effects come from the cards that print them, and the layout is the standard one.  Cards that
come into play stay there, so one game keeps what another had (`Game.Keeps`).

* `run_regular` — a proper command that is carried out leaves a regular game regular, and the game
  keeps what it had.
-/

namespace Terraforming

/-! ## Players -/

namespace Player

variable {q q' : Player} {i : Int} {c : PlayedCard}

/-- Production is not too low, cards are well made, and effects come from the cards that print
them. -/
structure Fit (q : Player) : Prop where
  production : ∀ r, q.productionFloor (some r) ≤ q.productionOf (some r)
  hand : ∀ c ∈ q.hand, c.wellMade = true
  played : ∀ c ∈ q.played, c.card.wellMade = true
  effects : ∀ e ∈ q.effects, ∃ c, q.played? e.source = some c ∧
    e.effect.ready c.card.supportedResource? = true

/-- A card in play is still found when more cards come into play. -/
theorem played?_of_prefix (kept : q.played <+: q'.played) (hc : q.played? i = some c) :
    q'.played? i = some c := by
  obtain ⟨more, hm⟩ := kept
  rw [played?] at hc ⊢
  rw [← hm, List.find?_append, hc]
  rfl

/-- A card that is held has an equal in the hand. -/
theorem mem_hand_of_holds {d : Card} (h : q.holds d = true) : ∃ e ∈ q.hand, (d == e) = true := by
  simpa [holds, List.contains_iff_exists_mem_beq] using h

namespace Fit

/-- Balances, resources on cards, used actions and the effects on the next card do not matter. -/
theorem of_same (fit : q.Fit) (production : q'.production = q.production)
    (rating : q'.rating = q.rating) (hand : q'.hand = q.hand) (played : q'.played = q.played)
    (effects : q'.effects = q.effects) : q'.Fit := by
  refine ⟨?_, ?_, ?_, ?_⟩
  · intro r
    rw [productionFloor, productionOf, rating, production]
    exact fit.production r
  · rw [hand]
    exact fit.hand
  · rw [played]
    exact fit.played
  · rw [effects]
    unfold played?
    rw [played]
    exact fit.effects

theorem wellMade_of_holds (fit : q.Fit) {d : Card} (h : q.holds d = true) : d.wellMade = true := by
  obtain ⟨e, he, same⟩ := mem_hand_of_holds h
  exact Card.wellMade_of_beq same (fit.hand e he)

theorem setHand (fit : q.Fit) {hand : List Card} (made : ∀ c ∈ hand, c.wellMade = true) :
    { q with hand := hand }.Fit :=
  ⟨fit.production, made, fit.played, fit.effects⟩

theorem setProduction (fit : q.Fit) {r : Resource} {n : Int}
    (enough : q.productionFloor (some r) ≤ n) :
    { q with production := q.production.insert r n }.Fit := by
  refine ⟨?_, fit.hand, fit.played, fit.effects⟩
  intro r'
  show q.productionFloor (some r') ≤ Pool.amount (q.production.insert r n) r'
  rw [Pool.amount_insert]
  split
  next same =>
    rw [same]
    exact enough
  next => exact fit.production r'

theorem rate (fit : q.Fit) {n : Int} (hn : 0 ≤ n) : { q with rating := q.rating + n }.Fit := by
  refine ⟨?_, fit.hand, fit.played, fit.effects⟩
  intro r
  refine Int.le_trans ?_ (fit.production r)
  simp only [productionFloor]
  split <;> omega

theorem putIntoPlay (fit : q.Fit) {card : Card} (held : q.holds card = true) :
    { q with
      hand := q.hand.erase card
      played := q.played ++ [PlayedCard.mk i card]
      nextInstance := i + 1 }.Fit := by
  refine ⟨fit.production, ?_, ?_, ?_⟩
  · intro c hc
    exact fit.hand c (List.mem_of_mem_erase hc)
  · intro c hc
    rcases List.mem_append.1 hc with hc | hc
    · exact fit.played c hc
    · rw [List.mem_singleton.1 hc]
      exact fit.wellMade_of_holds held
  · intro e he
    obtain ⟨c, hc, ready⟩ := fit.effects e he
    exact ⟨c, played?_of_prefix (List.prefix_append _ _) hc, ready⟩

theorem addEffect (fit : q.Fit) {e : Effect} (hc : q.played? i = some c)
    (ready : e.ready c.card.supportedResource? = true) :
    { q with effects := q.effects ++ [ActiveEffect.mk i e] }.Fit := by
  refine ⟨fit.production, fit.hand, fit.played, ?_⟩
  intro a ha
  rcases List.mem_append.1 ha with ha | ha
  · exact fit.effects a ha
  · rw [List.mem_singleton.1 ha]
    exact ⟨c, hc, ready⟩

end Fit

end Player

/-! ## Games -/

namespace Game

variable {g g' g'' : Game} {p : PlayerId} {q q' : Player}

/-- Players are fit, the layout is the standard one, and the piles hold well-made cards. -/
structure Stocked (g : Game) : Prop where
  players : ∀ p q, g.player? p = some q → q.Fit
  spaces : g.board.spaces = Board.standard.spaces
  deck : ∀ c ∈ g.deck, c.wellMade = true
  discard : ∀ c ∈ g.discard, c.wellMade = true

/-- A sound game on the standard layout with well-made cards. -/
structure Regular (g : Game) : Prop where
  sound : g.Sound
  owned : g.board.Owned
  stocked : g.Stocked

/-- Every player is still there, with the cards that were in play. -/
def Keeps (g g' : Game) : Prop :=
  ∀ p q, g.player? p = some q → ∃ q', g'.player? p = some q' ∧ q.played <+: q'.played

namespace Keeps

theorem refl (g : Game) : g.Keeps g := fun _ q hq => ⟨q, hq, List.prefix_refl _⟩

theorem trans (h : g.Keeps g') (h' : g'.Keeps g'') : g.Keeps g'' := by
  intro p q hq
  obtain ⟨q', hq', kept⟩ := h p q hq
  obtain ⟨q'', hq'', kept'⟩ := h' p q' hq'
  exact ⟨q'', hq'', kept.trans kept'⟩

theorem of_players (same : g'.players = g.players) : g.Keeps g' := by
  intro p q hq
  refine ⟨q, ?_, List.prefix_refl _⟩
  rw [player?, same]
  exact hq

theorem withPlayer (hq : g.player? p = some q) (kept : q.played <+: q'.played) :
    g.Keeps (g.withPlayer p q') := by
  intro p₁ q₁ hq₁
  rw [player?_withPlayer]
  by_cases same : p₁ = p
  · subst same
    obtain rfl : q₁ = q := Option.some.inj (hq₁.symm.trans hq)
    exact ⟨q', if_pos rfl, kept⟩
  · exact ⟨q₁, (if_neg same).trans hq₁, List.prefix_refl _⟩

end Keeps

namespace Stocked

theorem withPlayer (stocked : g.Stocked) (fit : q.Fit) : (g.withPlayer p q).Stocked := by
  have players : ∀ p' q', (g.withPlayer p q).player? p' = some q' → q'.Fit :=
    Table.forall_insert stocked.players fit
  exact ⟨players, stocked.spaces, stocked.deck, stocked.discard⟩

theorem withBoard (stocked : g.Stocked) {b : Board} (same : b.spaces = g.board.spaces) :
    { g with board := b }.Stocked :=
  ⟨stocked.players, same.trans stocked.spaces, stocked.deck, stocked.discard⟩

/-- The counters, the honors and the log do not matter. -/
theorem of_same (stocked : g.Stocked) (players : g'.players = g.players)
    (board : g'.board = g.board) (deck : g'.deck = g.deck) (discard : g'.discard = g.discard) :
    g'.Stocked := by
  refine ⟨?_, ?_, ?_, ?_⟩
  · intro p q hq
    rw [player?, players] at hq
    exact stocked.players p q hq
  · rw [board]
    exact stocked.spaces
  · rw [deck]
    exact stocked.deck
  · rw [discard]
    exact stocked.discard

theorem reshuffle (stocked : g.Stocked) : g.reshuffle.Stocked := by
  refine ⟨stocked.players, stocked.spaces, ?_,
    fun c hc => absurd (show c ∈ ([] : List Card) from hc) List.not_mem_nil⟩
  intro c hc
  rcases List.mem_append.1 hc with hc | hc
  · exact stocked.deck c hc
  · exact stocked.discard c ((Generator.shuffle_perm _ _).mem_iff.1 hc)

theorem deal (stocked : g.Stocked) (hq : g.player? p = some q) (n : Nat) :
    (g.deal p q n).Stocked := by
  have taken : { g with deck := g.deck.drop n }.Stocked :=
    ⟨stocked.players, stocked.spaces, fun c hc => stocked.deck c (List.mem_of_mem_drop hc),
      stocked.discard⟩
  refine taken.withPlayer ((stocked.players p q hq).setHand ?_)
  intro c hc
  rcases List.mem_append.1 hc with hc | hc
  · exact (stocked.players p q hq).hand c hc
  · exact stocked.deck c (List.mem_of_mem_take hc)

theorem resetCardActions (stocked : g.Stocked) : g.resetCardActions.Stocked := by
  refine ⟨?_, stocked.spaces, stocked.deck, stocked.discard⟩
  intro p q hq
  rw [player?, Game.resetCardActions, Table.get?_mapValues] at hq
  obtain ⟨q₀, hq₀, rfl⟩ := Option.map_eq_some_iff.1 hq
  exact (stocked.players p q₀ hq₀).of_same rfl rfl rfl rfl rfl

end Stocked

theorem keeps_deal (hq : g.player? p = some q) (n : Nat) : g.Keeps (g.deal p q n) := by
  have taken : { g with deck := g.deck.drop n }.player? p = some q := hq
  exact Keeps.withPlayer taken (List.prefix_refl _)

theorem keeps_resetCardActions (g : Game) : g.Keeps g.resetCardActions := by
  intro p q hq
  refine ⟨{ q with tapped := ∅ }, ?_, List.prefix_refl _⟩
  rw [player?, Game.resetCardActions, Table.get?_mapValues]
  exact Option.map_eq_some_iff.2 ⟨q, hq, rfl⟩

/-- Discarding keeps a game stocked: what goes on the pile is equal to a card of the hand. -/
theorem discardAll_stocked (cards : List Card) (stocked : g.Stocked) (hq : g.player? p = some q) :
    (discardAll p cards q g).game.Stocked ∧ g.Keeps (discardAll p cards q g).game := by
  refine discardAll_keeps (I := fun h => h.Stocked ∧ g.Keeps h) cards hq ?_ ⟨stocked, .refl g⟩
  rintro h q c hq held ⟨stocked, kept⟩
  have fit := stocked.players p q hq
  have piled : { h with discard := h.discard ++ [c] }.Stocked := by
    refine ⟨stocked.players, stocked.spaces, stocked.deck, List.forall_mem_append.2 ⟨stocked.discard, ?_⟩⟩
    exact List.forall_mem_singleton.2 (fit.wellMade_of_holds held)
  have less : { q with hand := q.hand.erase c }.Fit :=
    fit.setHand fun d hd => fit.hand d (List.mem_of_mem_erase hd)
  have found : { h with discard := h.discard ++ [c] }.player? p = some q := hq
  have step : h.Keeps { h with discard := h.discard ++ [c] } := .of_players rfl
  exact ⟨piled.withPlayer less, kept.trans (step.trans (.withPlayer found (List.prefix_refl _)))⟩

end Game

/-! ## Commands -/

/-- The command takes nothing from a rating, and what it brings in is well made and shows. -/
def Command.Proper (g : Game) : Command → Prop
  | .raiseTerraformRating _ n => 0 ≤ n
  | .addEffect p source e => ∀ q i c, g.player? p = some q → source = some i →
      q.played? i = some c → e.ready c.card.supportedResource? = true
  | .purchaseCards _ cards => ∀ c ∈ cards, c.wellMade = true
  | .placeTile _ t => t.Shows
  | _ => True

theorem Command.Proper.shows {g : Game} {c : Command} (h : c.Proper g) : c.Shows := by
  cases c with
  | placeTile l t => exact h
  | _ => trivial

namespace Player.Becomes

variable {g : Game} {c : Command} {p : PlayerId} {q q' : Player}

/-- A proper command on the affairs of a player leaves them fit. -/
theorem fit (becomes : q.Becomes p c q') (hq : g.player? p = some q) (proper : c.Proper g)
    (fit : q.Fit) : q'.Fit := by
  cases becomes with
  | production floor => exact fit.setProduction floor
  | intoPlay held => exact fit.putIntoPlay held
  | rating => exact fit.rate proper
  | effect inPlay =>
    obtain ⟨d, hd⟩ := Option.isSome_iff_exists.1 inPlay
    exact fit.addEffect hd (proper q _ d hq rfl hd)
  | @purchase cards mc =>
    have filled : { q with hand := q.hand ++ cards }.Fit :=
      fit.setHand (List.forall_mem_append.2 ⟨fit.hand, proper⟩)
    exact filled.of_same rfl rfl rfl rfl rfl
  | _ => exact fit.of_same rfl rfl rfl rfl rfl

/-- Nothing that is in play goes away. -/
theorem played (becomes : q.Becomes p c q') : q.played <+: q'.played := by
  cases becomes with
  | intoPlay => exact List.prefix_append _ _
  | _ => exact List.prefix_refl _

end Player.Becomes

namespace Game

variable {g g' : Game} {c : Command}

/-- A proper command that is carried out keeps a game stocked. -/
theorem run_stocked (stocked : g.Stocked) (proper : c.Proper g) (h : g.run c = .ok g') :
    g'.Stocked ∧ g.Keeps g' := by
  cases run_iff.1 h with
  | @alone c p q q' hq becomes =>
    have fit := becomes.fit hq proper (stocked.players p q hq)
    exact ⟨stocked.withPlayer fit, .withPlayer hq becomes.played⟩
  | dealt hq => exact ⟨stocked.deal hq _, keeps_deal hq _⟩
  | reshuffled hq =>
    have shuffled : g.Keeps g.reshuffle := .of_players rfl
    exact ⟨stocked.reshuffle.deal hq _, shuffled.trans (keeps_deal (g := g.reshuffle) hq _)⟩
  | discarded hq => exact discardAll_stocked _ stocked hq
  | tile placed => exact ⟨stocked.withBoard (Board.place_frame placed).1, .of_players rfl⟩
  | temperature | oxygen => exact ⟨stocked.withBoard rfl, .of_players rfl⟩
  | untapped => exact ⟨stocked.resetCardActions, keeps_resetCardActions g⟩
  | generation | milestone | award => exact ⟨stocked.of_same rfl rfl rfl rfl, .of_players rfl⟩

/-- A proper command that is carried out keeps a game regular. -/
theorem run_regular (regular : g.Regular) (proper : c.Proper g) (h : g.run c = .ok g') :
    g'.Regular ∧ g.Keeps g' := by
  obtain ⟨sound, owned⟩ := run_sound regular.sound regular.owned proper.shows h
  obtain ⟨stocked, kept⟩ := run_stocked regular.stocked proper h
  exact ⟨⟨sound, owned, stocked⟩, kept⟩

end Game

end Terraforming
