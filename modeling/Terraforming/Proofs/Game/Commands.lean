import Terraforming.Game.Execute
import Terraforming.Proofs.Data.Except
import Terraforming.Proofs.Data.Table

/-!
# What a command does

Each command in one lemma: it is carried out exactly when its conditions hold, and then the game it
leaves is the one stated.  From these `Game.CarriesOut` is put together, which says what all commands do:
most make something of one player (`Player.Becomes`) and do nothing else.  Whatever is kept by every
command is read off `Game.run_iff`, with no look at how a command is carried out.

* `changeResources_eq_ok`, `changeProduction_eq_ok`, `changeCardResource_eq_ok`,
  `purchaseCards_eq_ok`, `produce_eq_ok` — the economy of a player;
* `draw_eq_ok`, `discard_eq_ok`, `putIntoPlay_eq_ok` — the cards;
* `addEffect_eq_ok`, `markCardActionUsed_eq_ok`, `update_eq_ok` — what cards in play bring;
* `claimMilestone_eq_ok`, `fundAward_eq_ok` — honors;
* `Board.place_eq_ok` and the two raises — the board;
* `run_iff` — every command.
-/

namespace Terraforming

/-! ## The board -/

namespace Board

/-- A tile goes down exactly on an empty space: a city anywhere, anything else on a hex, and an
ocean only while there is one left. -/
theorem place_eq_ok {b b' : Board} {l : Location} {t : Tile} :
    b.place l t = .ok b' ↔
      b.spaces.contains l = true ∧ (b.status l).isEmpty = true ∧
        ((t.isCity = true ∧ { b with cities := b.cities.insert l (t.cityKind, t.owner) } = b') ∨
          ∃ h, l = .onMars h ∧ t.isCity = false ∧ b.cover h t = .ok b') := by
  unfold place
  cases hs : b.spaces.contains l with
  | false => simp
  | true =>
    cases he : (b.status l).isEmpty with
    | false => simp [he]
    | true =>
      cases hc : t.isCity with
      | true => simp [he]
      | false => cases l <;> simp [he]

/-- What covers a hex: an ocean, a greenery or a special tile. -/
theorem cover_eq_ok {b b' : Board} {h : Hex} {t : Tile} :
    b.cover h t = .ok b' ↔
      (t.kind = .ocean ∧ b.oceansMaxed = false ∧ { b with oceans := b.oceans.add h } = b') ∨
      (t.kind = .greenery ∧ { b with greeneries := b.greeneries.insert h t.owner } = b') ∨
      (t.kind = .specialTile ∧
        { b with specialTiles := b.specialTiles.insert h (t.specialTile, t.owner) } = b') := by
  unfold cover
  cases t.kind <;> simp

theorem raiseTemperature_eq_ok {b b' : Board} :
    b.raiseTemperature = .ok b' ↔
      b.temperatureMaxed = false ∧ { b with temperature := b.temperature + temperatureStep } = b' := by
  unfold raiseTemperature
  simp

theorem raiseOxygen_eq_ok {b b' : Board} :
    b.raiseOxygen = .ok b' ↔ b.oxygenMaxed = false ∧ { b with oxygen := b.oxygen + 1 } = b' := by
  unfold raiseOxygen
  simp

end Board

namespace Game

variable {g g' : Game} {p : PlayerId}

theorem player?_withPlayer {p' : PlayerId} {q : Player} :
    (g.withPlayer p q).player? p' = if p' = p then some q else g.player? p' :=
  Table.get?_insert g.players p p' q

@[simp] theorem player_eq_ok {q : Player} : g.player p = .ok q ↔ g.player? p = some q := by
  unfold player
  cases g.player? p <;> simp

theorem update_eq_ok {f : Player → Player} :
    g.update p f = .ok g' ↔ ∃ q, g.player? p = some q ∧ g.withPlayer p (f q) = g' := by
  unfold update
  simp

/-! ## Economy -/

theorem changeResources_eq_ok {r : Resource} {delta : Int} :
    g.changeResources p r delta = .ok g' ↔
      ∃ q, g.player? p = some q ∧ 0 ≤ q.balance (some r) + delta ∧
        g.withPlayer p { q with
          resources := q.resources.insert r (q.balance (some r) + delta) } = g' := by
  unfold changeResources
  simp

theorem changeProduction_eq_ok {r : Resource} {delta : Int} :
    g.changeProduction p r delta = .ok g' ↔
      ∃ q, g.player? p = some q ∧
        q.productionFloor (some r) ≤ q.productionOf (some r) + delta ∧
        g.withPlayer p { q with
          production := q.production.insert r (q.productionOf (some r) + delta) } = g' := by
  unfold changeProduction
  simp

theorem changeCardResource_eq_ok {i : Int} {kind : CardResource} {delta : Int} :
    g.changeCardResource p i kind delta = .ok g' ↔
      ∃ q c, g.player? p = some q ∧ q.played? i = some c ∧
        c.card.supportedResource? = some kind ∧ 0 ≤ q.held i (some kind) + delta ∧
        g.withPlayer p { q with
          cardResources := q.cardResources.insert ⟨i, kind⟩ (q.held i (some kind) + delta) }
            = g' := by
  unfold changeCardResource
  simp only [bind_eq_ok, player_eq_ok]
  refine exists_congr fun q => ?_
  cases q.played? i with
  | none => simp
  | some c => simp

/-- Cards are bought exactly when there is a balance that covers them. -/
theorem purchaseCards_eq_ok {cards : List Card} :
    g.purchaseCards p cards = .ok g' ↔
      ∃ q mc, g.player? p = some q ∧ q.resources.get? .megacredits = some mc ∧
        cardPrice * cards.length ≤ mc ∧
        g.withPlayer p { q with
          resources := q.resources.insert .megacredits (mc - cardPrice * cards.length)
          hand := q.hand ++ cards } = g' := by
  unfold purchaseCards Player.purchase
  simp only [bind_eq_ok, player_eq_ok]
  rw [exists_congr fun q => exists_and_left]
  refine exists_congr fun q => and_congr_right fun _ => ?_
  have balance : q.balance (some .megacredits) = (q.resources.get? .megacredits).getD 0 := rfl
  cases hmc : q.resources.get? .megacredits with
  | none =>
    rw [hmc] at balance
    cases q.canPurchase cards.length <;> simp
  | some mc =>
    rw [hmc] at balance
    have covered : q.canPurchase cards.length = decide ((cardPrice * cards.length : Int) ≤ mc) := by
      rw [Player.canPurchase, balance]
      norm_cast
    by_cases h : (cardPrice * cards.length : Int) ≤ mc
    · simp [covered, h]
    · simp [covered, h]

/-- Production happens exactly when no balance ends below nothing. -/
theorem produce_eq_ok :
    g.run (.produce p) = .ok g' ↔
      ∃ q, g.player? p = some q ∧ (∀ r, 0 ≤ q.balanceAfterProduction r) ∧
        g.withPlayer p { q with
          resources := Table.ofList (Resource.all.map fun r => (r, q.balanceAfterProduction r))
          tapped := ∅
          nextCardEffects := [] } = g' := by
  unfold run Player.produce
  simp only [bind_eq_ok, player_eq_ok]
  refine exists_congr fun q => and_congr_right fun _ => ?_
  cases hf : Resource.all.find? fun r => q.balanceAfterProduction r < 0 with
  | some r =>
    have negative : q.balanceAfterProduction r < 0 := by simpa using List.find?_some hf
    simp only [throw_eq_error, reduceCtorEq, false_iff, not_and]
    intro all
    exact absurd (all r) (Int.not_le.2 negative)
  | none =>
    have all : ∀ r, 0 ≤ q.balanceAfterProduction r := by
      intro r
      have := List.find?_eq_none.1 hf r (by cases r <;> decide)
      simpa using this
    simp [all]

/-! ## Cards -/

theorem draw_eq_ok {count : Int} :
    g.draw p count = .ok g' ↔
      ∃ q, g.player? p = some q ∧ 0 ≤ count ∧
        ((count ≤ g.deck.length ∧ g.deal p q count.toNat = g') ∨
          (g.deck.length < count ∧ count ≤ g.deck.length + g.discard.length ∧
            g.reshuffle.deal p q count.toNat = g')) := by
  unfold draw
  simp only [bind_eq_ok, player_eq_ok]
  refine exists_congr fun q => and_congr_right fun _ => ?_
  by_cases deck : count ≤ g.deck.length
  · simp [deck, Int.not_lt.2 deck]
  · simp [deck, Int.not_le.1 deck]

theorem discard_eq_ok {cards : List Card} :
    g.run (.discardCards p cards) = .ok g' ↔
      ∃ q, g.player? p = some q ∧ discardAll p cards q g = .accepted g' := by
  unfold run
  simp only [bind_eq_ok, player_eq_ok]
  refine exists_congr fun q => and_congr_right fun _ => ?_
  cases discardAll p cards q g <;> simp [Outcome.toExcept]

/-- Discarding keeps what a single card keeps that goes from the hand to the pile, also when it stops
half way. -/
theorem discardAll_keeps {I : Game → Prop} {q : Player} (cards : List Card)
    (hq : g.player? p = some q)
    (step : ∀ (h : Game) (q : Player) (c : Card), h.player? p = some q → q.holds c = true → I h →
      I ({ h with discard := h.discard ++ [c] }.withPlayer p { q with hand := q.hand.erase c }))
    (start : I g) : I (discardAll p cards q g).game := by
  induction cards generalizing q g with
  | nil => exact start
  | cons c cs ih =>
    rw [discardAll]
    split
    next held => exact ih (player?_withPlayer.trans (if_pos rfl)) (step g q c hq held start)
    next => exact start

theorem putIntoPlay_eq_ok {c : Card} {i : Int} :
    g.putIntoPlay p c i = .ok g' ↔
      ∃ q, g.player? p = some q ∧ q.holds c = true ∧ q.nextInstance ≤ i ∧
        g.withPlayer p { q with
          hand := q.hand.erase c
          played := q.played ++ [⟨i, c⟩]
          nextInstance := i + 1 } = g' := by
  unfold putIntoPlay
  simp

/-! ## Effects and card actions -/

theorem addEffect_eq_ok {source : Option Int} {e : Effect} :
    g.addEffect p source e = .ok g' ↔
      ∃ q i, g.player? p = some q ∧ source = some i ∧ (q.played? i).isSome = true ∧
        g.withPlayer p { q with effects := q.effects ++ [⟨i, e⟩] } = g' := by
  unfold addEffect
  simp only [bind_eq_ok, player_eq_ok]
  refine exists_congr fun q => ?_
  cases source with
  | none => simp
  | some i => cases h : (q.played? i).isSome <;> simp [Option.filter, h]

theorem markCardActionUsed_eq_ok {i : Int} :
    g.markCardActionUsed p i = .ok g' ↔
      ∃ q c, g.player? p = some q ∧ q.played? i = some c ∧ c.card.actions ≠ [] ∧
        q.tapped.contains i = false ∧
        g.withPlayer p { q with tapped := q.tapped.add i } = g' := by
  unfold markCardActionUsed
  simp only [bind_eq_ok, player_eq_ok]
  refine exists_congr fun q => ?_
  cases q.played? i with
  | none => simp
  | some c => by_cases h : c.card.actions = [] <;> simp [Option.filter, h]

/-! ## Milestones and awards -/

theorem claimMilestone_eq_ok {name : String} :
    g.claimMilestone p name = .ok g' ↔
      (∃ q, g.player? p = some q) ∧ (Vocabulary.ofWord? (α := Milestone) name).isSome = true ∧
        g.claimed.contains name = false ∧ g.claimed.size < Milestone.limit ∧
        { g with claimed := g.claimed.set name p } = g' := by
  unfold claimMilestone
  simp [Option.isSome_iff_ne_none]

theorem fundAward_eq_ok {name : String} :
    g.fundAward p name = .ok g' ↔
      (∃ q, g.player? p = some q) ∧ (Vocabulary.ofWord? (α := Award) name).isSome = true ∧
        g.funded.contains name = false ∧ g.funded.size < Award.limit ∧
        { g with funded := g.funded.set name p } = g' := by
  unfold fundAward
  simp [Option.isSome_iff_ne_none]

end Game

/-! ## Every command -/

/-- What becomes of player `q`, who is `p`, by a command on their own affairs. -/
inductive Player.Becomes (p : PlayerId) (q : Player) : Command → Player → Prop where
  | resources {r : Resource} {delta : Int} : 0 ≤ q.balance (some r) + delta →
      Becomes p q (.changeResources p r delta)
        { q with resources := q.resources.insert r (q.balance (some r) + delta) }
  | production {r : Resource} {delta : Int} :
      q.productionFloor (some r) ≤ q.productionOf (some r) + delta →
      Becomes p q (.changeProduction p r delta)
        { q with production := q.production.insert r (q.productionOf (some r) + delta) }
  | cardResource {i : Int} {kind : CardResource} {delta : Int} {d : PlayedCard} :
      q.played? i = some d → d.card.supportedResource? = some kind →
      0 ≤ q.held i (some kind) + delta →
      Becomes p q (.changeCardResource p i kind delta)
        { q with cardResources := q.cardResources.insert ⟨i, kind⟩ (q.held i (some kind) + delta) }
  | intoPlay {c : Card} {i : Int} : q.holds c = true → q.nextInstance ≤ i →
      Becomes p q (.putCardIntoPlay p c i)
        { q with hand := q.hand.erase c, played := q.played ++ [⟨i, c⟩], nextInstance := i + 1 }
  | rating (n : Int) : Becomes p q (.raiseTerraformRating p n) { q with rating := q.rating + n }
  | effect {i : Int} {e : Effect} : (q.played? i).isSome = true →
      Becomes p q (.addEffect p (some i) e) { q with effects := q.effects ++ [⟨i, e⟩] }
  | nextCardEffect (e : Effect) :
      Becomes p q (.addNextCardEffect p e) { q with nextCardEffects := q.nextCardEffects ++ [e] }
  | nextCardEffectsUsed : Becomes p q (.consumeNextCardEffects p) { q with nextCardEffects := [] }
  | tapped {i : Int} {d : PlayedCard} : q.played? i = some d → d.card.actions ≠ [] →
      q.tapped.contains i = false →
      Becomes p q (.markCardActionUsed p i) { q with tapped := q.tapped.add i }
  | purchase {cards : List Card} {mc : Int} : q.resources.get? .megacredits = some mc →
      cardPrice * cards.length ≤ mc →
      Becomes p q (.purchaseCards p cards)
        { q with
          resources := q.resources.insert .megacredits (mc - cardPrice * cards.length)
          hand := q.hand ++ cards }
  | produced : (∀ r, 0 ≤ q.balanceAfterProduction r) →
      Becomes p q (.produce p)
        { q with
          resources := Table.ofList (Resource.all.map fun r => (r, q.balanceAfterProduction r))
          tapped := ∅
          nextCardEffects := [] }

namespace Game

variable {g g' : Game}

/-- What a command that is carried out makes of a game. -/
inductive CarriesOut (g : Game) : Command → Game → Prop where
  /-- Something becomes of one player, and nothing else happens. -/
  | alone {c : Command} {p : PlayerId} {q q' : Player} : g.player? p = some q → q.Becomes p c q' →
      CarriesOut g c (g.withPlayer p q')
  | dealt {p : PlayerId} {q : Player} {count : Int} : g.player? p = some q → 0 ≤ count →
      count ≤ g.deck.length → CarriesOut g (.drawCards p count) (g.deal p q count.toNat)
  | reshuffled {p : PlayerId} {q : Player} {count : Int} : g.player? p = some q → 0 ≤ count →
      g.deck.length < count → count ≤ g.deck.length + g.discard.length →
      CarriesOut g (.drawCards p count) (g.reshuffle.deal p q count.toNat)
  | discarded {p : PlayerId} {q : Player} {cards : List Card} : g.player? p = some q →
      (∃ g', discardAll p cards q g = .accepted g') →
      CarriesOut g (.discardCards p cards) (discardAll p cards q g).game
  | tile {l : Location} {t : Tile} {b : Board} : g.board.place l t = .ok b →
      CarriesOut g (.placeTile l t) { g with board := b }
  | temperature : g.board.temperatureMaxed = false →
      CarriesOut g .raiseTemperature
        { g with board := { g.board with temperature := g.board.temperature + Board.temperatureStep } }
  | oxygen : g.board.oxygenMaxed = false →
      CarriesOut g .raiseOxygen { g with board := { g.board with oxygen := g.board.oxygen + 1 } }
  | untapped : CarriesOut g .resetCardActions g.resetCardActions
  | generation : CarriesOut g .advanceGeneration { g with generation := g.generation + 1 }
  | milestone {p : PlayerId} {q : Player} {name : String} : g.player? p = some q →
      (Vocabulary.ofWord? (α := Milestone) name).isSome = true → g.claimed.contains name = false →
      g.claimed.size < Milestone.limit →
      CarriesOut g (.claimMilestone p name) { g with claimed := g.claimed.set name p }
  | award {p : PlayerId} {q : Player} {name : String} : g.player? p = some q →
      (Vocabulary.ofWord? (α := Award) name).isSome = true → g.funded.contains name = false →
      g.funded.size < Award.limit →
      CarriesOut g (.fundAward p name) { g with funded := g.funded.set name p }

theorem CarriesOut.of_run {c : Command} (h : g.run c = .ok g') : g.CarriesOut c g' := by
  cases c with
  | changeResources p r delta =>
    obtain ⟨q, hq, enough, rfl⟩ := changeResources_eq_ok.1 h
    exact .alone hq (.resources enough)
  | changeProduction p r delta =>
    obtain ⟨q, hq, floor, rfl⟩ := changeProduction_eq_ok.1 h
    exact .alone hq (.production floor)
  | changeCardResource p i kind delta =>
    obtain ⟨q, d, hq, hd, holds, enough, rfl⟩ := changeCardResource_eq_ok.1 h
    exact .alone hq (.cardResource hd holds enough)
  | drawCards p count =>
    obtain ⟨q, hq, sensible, ⟨enough, rfl⟩ | ⟨short, enough, rfl⟩⟩ := draw_eq_ok.1 h
    · exact .dealt hq sensible enough
    · exact .reshuffled hq sensible short enough
  | discardCards p cards =>
    obtain ⟨q, hq, discarded⟩ := discard_eq_ok.1 h
    have left : (discardAll p cards q g).game = g' := congrArg Outcome.game discarded
    exact left ▸ .discarded hq ⟨g', discarded⟩
  | putCardIntoPlay p c i =>
    obtain ⟨q, hq, held, fresh, rfl⟩ := putIntoPlay_eq_ok.1 h
    exact .alone hq (.intoPlay held fresh)
  | placeTile l t =>
    obtain ⟨b, placed, rfl⟩ := map_eq_ok.1 h
    exact .tile placed
  | raiseTemperature =>
    obtain ⟨b, raised, rfl⟩ := map_eq_ok.1 h
    obtain ⟨below, rfl⟩ := Board.raiseTemperature_eq_ok.1 raised
    exact .temperature below
  | raiseOxygen =>
    obtain ⟨b, raised, rfl⟩ := map_eq_ok.1 h
    obtain ⟨below, rfl⟩ := Board.raiseOxygen_eq_ok.1 raised
    exact .oxygen below
  | raiseTerraformRating p n =>
    obtain ⟨q, hq, rfl⟩ := update_eq_ok.1 h
    exact .alone hq (.rating n)
  | addEffect p source e =>
    obtain ⟨q, i, hq, rfl, inPlay, rfl⟩ := addEffect_eq_ok.1 h
    exact .alone hq (.effect inPlay)
  | addNextCardEffect p e =>
    obtain ⟨q, hq, rfl⟩ := update_eq_ok.1 h
    exact .alone hq (.nextCardEffect e)
  | consumeNextCardEffects p =>
    obtain ⟨q, hq, rfl⟩ := update_eq_ok.1 h
    exact .alone hq .nextCardEffectsUsed
  | markCardActionUsed p i =>
    obtain ⟨q, d, hq, hd, actions, untapped, rfl⟩ := markCardActionUsed_eq_ok.1 h
    exact .alone hq (.tapped hd actions untapped)
  | resetCardActions =>
    cases h
    exact .untapped
  | purchaseCards p cards =>
    obtain ⟨q, mc, hq, purse, covered, rfl⟩ := purchaseCards_eq_ok.1 h
    exact .alone hq (.purchase purse covered)
  | produce p =>
    obtain ⟨q, hq, can, rfl⟩ := produce_eq_ok.1 h
    exact .alone hq (.produced can)
  | advanceGeneration =>
    cases h
    exact .generation
  | claimMilestone p name =>
    obtain ⟨⟨q, hq⟩, known, free, few, rfl⟩ := claimMilestone_eq_ok.1 h
    exact .milestone hq known free few
  | fundAward p name =>
    obtain ⟨⟨q, hq⟩, known, free, few, rfl⟩ := fundAward_eq_ok.1 h
    exact .award hq known free few

/-- A command on the affairs of one player is carried out wherever the player is the same. -/
theorem run_of_becomes {c : Command} {p : PlayerId} {q q' : Player} (hq : g.player? p = some q)
    (becomes : q.Becomes p c q') : g.run c = .ok (g.withPlayer p q') := by
  cases becomes with
  | resources enough => exact changeResources_eq_ok.2 ⟨q, hq, enough, rfl⟩
  | production floor => exact changeProduction_eq_ok.2 ⟨q, hq, floor, rfl⟩
  | cardResource hd holds enough =>
    exact changeCardResource_eq_ok.2 ⟨q, _, hq, hd, holds, enough, rfl⟩
  | intoPlay held fresh => exact putIntoPlay_eq_ok.2 ⟨q, hq, held, fresh, rfl⟩
  | effect inPlay => exact addEffect_eq_ok.2 ⟨q, _, hq, rfl, inPlay, rfl⟩
  | rating | nextCardEffect | nextCardEffectsUsed => exact update_eq_ok.2 ⟨q, hq, rfl⟩
  | tapped hd actions untapped =>
    exact markCardActionUsed_eq_ok.2 ⟨q, _, hq, hd, actions, untapped, rfl⟩
  | purchase purse covered => exact purchaseCards_eq_ok.2 ⟨q, _, hq, purse, covered, rfl⟩
  | produced can => exact produce_eq_ok.2 ⟨q, hq, can, rfl⟩

/-- **Every command**: it is carried out exactly when one of the cases applies, and to what that case
says. -/
theorem run_iff {c : Command} : g.run c = .ok g' ↔ g.CarriesOut c g' := by
  refine ⟨CarriesOut.of_run, fun carriesOut => ?_⟩
  cases carriesOut with
  | alone hq becomes => exact run_of_becomes hq becomes
  | dealt hq sensible enough => exact draw_eq_ok.2 ⟨_, hq, sensible, .inl ⟨enough, rfl⟩⟩
  | reshuffled hq sensible short enough =>
    exact draw_eq_ok.2 ⟨_, hq, sensible, .inr ⟨short, enough, rfl⟩⟩
  | @discarded p q cards hq held =>
    obtain ⟨g', discarded⟩ := held
    have left : (discardAll p cards q g).game = g' := congrArg Outcome.game discarded
    exact discard_eq_ok.2 ⟨q, hq, left ▸ discarded⟩
  | tile placed => exact map_eq_ok.2 ⟨_, placed, rfl⟩
  | temperature below =>
    exact map_eq_ok.2 ⟨_, Board.raiseTemperature_eq_ok.2 ⟨below, rfl⟩, rfl⟩
  | oxygen below => exact map_eq_ok.2 ⟨_, Board.raiseOxygen_eq_ok.2 ⟨below, rfl⟩, rfl⟩
  | untapped | generation => rfl
  | milestone hq known free few =>
    exact claimMilestone_eq_ok.2 ⟨⟨_, hq⟩, known, free, few, rfl⟩
  | award hq known free few => exact fundAward_eq_ok.2 ⟨⟨_, hq⟩, known, free, few, rfl⟩

end Game

end Terraforming
