import Terraforming.Proofs.Card.Ready
import Terraforming.Proofs.Game.GenerationEnd
import Terraforming.Proofs.Game.Inventory

/-!
# Games that can be scored

The points of a game are a matter of division and of look-ups: groups of cities, tags and resources
are counted in a number that must not be zero, event tags are not counted at all, and an award is
scored by its name.  Where the cards make sense so and the awards are known, there is an answer.

* `CardText.scorable` — the points that are printed on a card make sense;
* `Player.points_answers_iff`, `Game.points_answers_iff` — exactly then there are points;
* `Game.scores_answers_iff` — there are scores when every player has points.
-/

namespace Terraforming

/-! ## Cards -/

/-- The points count something, in groups of some size. -/
def Points.countable (v : Points) : Bool :=
  match v.type with
  | .perNCities | .perCardResource => v.per ≠ 0
  | .perTag => v.tag ≠ some .event && decide (v.per ≠ 0)
  | _ => true

/-- The points that are printed on the card make sense, if there are any. -/
def CardText.scorable (c : CardText) : Bool := c.points.all Points.countable

namespace Card

/-- The order of the changes of production does not matter. -/
theorem scorable_normal (c : Card) : c.normal.scorable = c.scorable := rfl

theorem scorable_corporate : ∀ c ∈ Catalog.corporate.cards, c.scorable = true := by
  decide +kernel

end Card

/-! ## Players -/

namespace Player

theorem groups_answers_iff {n per : Int} : (∃ m, groups n per = .ok m) ↔ per ≠ 0 := by
  simp [groups]

theorem tagCount_answers_iff {q : Player} {tag : Option CardTag} :
    (∃ n, q.tagCount tag = .ok n) ↔ tag ≠ some .event := by
  simp [tagCount]

/-- A card in play has points exactly when those that are printed on it make sense. -/
theorem cardPoints_answers_iff {q : Player} {c : PlayedCard} {b : Board} :
    (∃ n, q.cardPoints b c = .ok n) ↔ c.card.scorable = true := by
  unfold cardPoints CardText.scorable
  cases hv : c.card.points with
  | none => simp
  | some v =>
    dsimp only [Option.all_some]
    unfold Points.countable
    cases ht : v.type with
    | perNCities => rw [groups_answers_iff, decide_eq_true_eq]
    | perTag =>
      rw [Bool.and_eq_true, decide_eq_true_eq, decide_eq_true_eq, ← tagCount_answers_iff (q := q)]
      constructor
      · rintro ⟨n, hn⟩
        obtain ⟨tags, counted, hn⟩ := bind_eq_ok.1 hn
        exact ⟨⟨tags, counted⟩, groups_answers_iff.1 (bind_pure_answers_iff.1 ⟨n, hn⟩)⟩
      · rintro ⟨⟨tags, counted⟩, some⟩
        rw [counted, ok_bind]
        exact bind_pure_answers_iff.2 (groups_answers_iff.2 some)
    | perCardResource => rw [bind_pure_answers_iff, groups_answers_iff, decide_eq_true_eq]
    | _ => simp

/-- A player has points exactly when all cards in play have. -/
theorem points_answers_iff {q : Player} {b : Board} :
    (∃ n, q.points b = .ok n) ↔ ∀ c ∈ q.played, c.card.scorable = true := by
  unfold points
  rw [bind_pure_answers_iff, mapM_answers_iff]
  simp only [cardPoints_answers_iff]

end Player

/-! ## Games -/

namespace Game

variable {g : Game} {p : PlayerId} {q : Player}

theorem awardPointsOf_answers_iff {name : String} :
    (∃ n, g.awardPointsOf p name = .ok n) ↔
      (Vocabulary.ofWord? (α := Award) name).isSome = true := by
  unfold awardPointsOf
  rw [bind_pure_answers_iff, awardPoints]
  cases Vocabulary.ofWord? (α := Award) name <;> simp

/-- A player scores exactly when all cards in play have points and all funded awards are known. -/
theorem points_answers_iff (hq : g.player? p = some q) :
    (∃ n, g.points p = .ok n) ↔ (∀ c ∈ q.played, c.card.scorable = true) ∧
      ∀ n ∈ g.funded.keys, (Vocabulary.ofWord? (α := Award) n).isSome = true := by
  unfold points
  rw [player_eq_ok.2 hq, ok_bind, ← Player.points_answers_iff (b := g.board)]
  simp only [← awardPointsOf_answers_iff (g := g) (p := p)]
  rw [← mapM_answers_iff]
  constructor
  · rintro ⟨n, hn⟩
    obtain ⟨own, hown, hn⟩ := bind_eq_ok.1 hn
    exact ⟨⟨own, hown⟩, bind_pure_answers_iff.1 ⟨n, hn⟩⟩
  · rintro ⟨⟨own, hown⟩, awards⟩
    rw [hown, ok_bind]
    exact bind_pure_answers_iff.2 awards

/-- What is in play can be scored, and so can the awards that are funded. -/
structure Scorable (g : Game) : Prop where
  cards : ∀ p q, g.player? p = some q → ∀ c ∈ q.played, c.card.scorable = true
  awards : ∀ n ∈ g.funded.keys, (Vocabulary.ofWord? (α := Award) n).isSome = true

theorem Scorable.points_answers (scorable : g.Scorable) (hq : g.player? p = some q) :
    ∃ n, g.points p = .ok n :=
  (points_answers_iff hq).2 ⟨scorable.cards p q hq, scorable.awards⟩

/-- There are scores exactly when every player scores. -/
theorem scores_answers_iff :
    (∃ ns, g.scores = .ok ns) ↔ ∀ p ∈ g.playerIds, ∃ n, g.points p = .ok n := by
  unfold scores
  rw [mapM_answers_iff]
  simp only [bind_pure_answers_iff]

/-- The scores of a game are the points of its players. -/
theorem mem_scores {ns : List (PlayerId × Int)} (h : g.scores = .ok ns) {n : Int} :
    (p, n) ∈ ns ↔ g.points p = .ok n := by
  rw [mem_of_mapM_eq_ok h]
  constructor
  · rintro ⟨p', -, hn⟩
    obtain ⟨n', hn', ⟨⟩⟩ := bind_eq_ok.1 hn
    exact hn'
  · intro hn
    have hn' := hn
    obtain ⟨q, hq, -⟩ := bind_eq_ok.1 hn'
    exact ⟨p, mem_playerIds.2 ⟨q, player_eq_ok.1 hq⟩, by rw [hn]; rfl⟩

/-- A game in which everything can be scored has scores. -/
theorem Scorable.scores_answers (scorable : g.Scorable) : ∃ ns, g.scores = .ok ns := by
  refine scores_answers_iff.2 fun p hp => ?_
  obtain ⟨q, hq⟩ := mem_playerIds.1 hp
  exact scorable.points_answers hq

/-- A card in play is one of the cards of the game. -/
theorem mem_inventory_of_played (hq : g.player? p = some q) {c : PlayedCard} (hc : c ∈ q.played) :
    c.card.normal ∈ g.inventory := by
  have there : c.card ∈ g.cards := by
    refine List.mem_append_left _ (List.mem_append_left _ (List.mem_flatMap.2 ⟨q, ?_, ?_⟩))
    · exact List.mem_map.2 ⟨(p, q), Table.get?_eq_some_iff.1 hq, rfl⟩
    · exact List.mem_append_right _ (List.mem_map.2 ⟨c, hc, rfl⟩)
  exact Multiset.mem_coe.2 (List.mem_map.2 ⟨c.card, there, rfl⟩)

/-- Where all cards can be scored, those in play can. -/
theorem scorable_of_inventory (cards : ∀ c ∈ g.inventory, c.scorable = true)
    (awards : ∀ n ∈ g.funded.keys, (Vocabulary.ofWord? (α := Award) n).isSome = true) :
    g.Scorable :=
  ⟨fun _ _ hq c hc => (Card.scorable_normal c.card).symm.trans
    (cards _ (mem_inventory_of_played hq hc)), awards⟩

end Game

end Terraforming
