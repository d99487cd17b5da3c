import Terraforming.Player.Setup
import Terraforming.Proofs.Board.Standard
import Terraforming.Proofs.Game.Regular

/-!
# Openings

How a game with the built-in cards starts: on the empty standard board, with nothing claimed or
funded, and with players who were set up.  An opening is a regular game (`Opening.regular`).

* `Player.Seated` — what setting a player up gives: cards in play under ids of their own, and the
  effects that they print;
* `PlayerSetup.seated` — it holds of every player who was set up with well-made cards.
-/

namespace Terraforming

/-! ## Players who were set up -/

namespace Player

variable {q q' : Player} {c : Card}

/-- No action was used, cards are well made, those in play have ids of their own below the next one,
and effects come from the cards that print them. -/
structure Seated (q : Player) : Prop where
  tapped : q.tapped = ∅
  hand : ∀ c ∈ q.hand, c.wellMade = true
  played : ∀ c ∈ q.played, c.card.wellMade = true
  distinct : (q.played.map (·.instanceId)).Nodup
  below : ∀ c ∈ q.played, c.instanceId < q.nextInstance
  effects : ∀ e ∈ q.effects, ∃ c, q.played? e.source = some c ∧
    e.effect.ready c.card.supportedResource? = true

namespace Seated

/-- Nothing is in play yet. -/
theorem of_nil (tapped : q.tapped = ∅) (hand : ∀ c ∈ q.hand, c.wellMade = true)
    (played : q.played = []) (effects : q.effects = []) : q.Seated := by
  refine ⟨tapped, hand, ?_, ?_, ?_, ?_⟩
  · rw [played]
    intro c hc
    cases hc
  · rw [played]
    exact .nil
  · rw [played]
    intro c hc
    cases hc
  · rw [effects]
    intro e he
    cases he

theorem putIntoPlay (seated : q.Seated) (made : c.wellMade = true) : (q.putIntoPlay c).Seated := by
  have distinct := distinct_concat seated.distinct seated.below (Int.le_refl _) c
  have entered : (q.putIntoPlay c).played? q.nextInstance = some ⟨q.nextInstance, c⟩ :=
    played?_of_mem (q := q.putIntoPlay c) (c := ⟨q.nextInstance, c⟩) distinct
      (List.mem_append_right _ (List.mem_singleton.2 rfl))
  refine ⟨seated.tapped, seated.hand, ?_, distinct,
    below_concat seated.below (Int.le_refl _) c, ?_⟩
  · intro d hd
    rcases List.mem_append.1 hd with hd | hd
    · exact seated.played d hd
    · rw [List.mem_singleton.1 hd]
      exact made
  · intro e he
    rcases List.mem_append.1 he with he | he
    · obtain ⟨d, hd, ready⟩ := seated.effects e he
      exact ⟨d, played?_of_prefix (List.prefix_append _ _) hd, ready⟩
    · obtain ⟨effect, mem, rfl⟩ := List.mem_map.1 he
      exact ⟨_, entered, Card.ready_of_mem_effects made mem⟩

theorem putAllIntoPlay {cs : List Card} (seated : q.Seated)
    (made : ∀ c ∈ cs, c.wellMade = true) : (cs.foldl Player.putIntoPlay q).Seated := by
  induction cs generalizing q with
  | nil => exact seated
  | cons c cs ih =>
    exact ih (seated.putIntoPlay (made c List.mem_cons_self)) fun d hd =>
      made d (List.mem_cons_of_mem c hd)

/-- What lies on the cards does not matter. -/
theorem setCardResources (seated : q.Seated) (cardResources : Table Holding Int) :
    { q with cardResources := cardResources }.Seated :=
  ⟨seated.tapped, seated.hand, seated.played, seated.distinct, seated.below, seated.effects⟩

end Seated

/-- Laying resources on cards changes nothing else. -/
theorem layAll_eq_ok {es : List (String × CardResource × Int)}
    (h : es.foldlM Player.layResources q = .ok q') :
    ∃ cardResources, q' = { q with cardResources := cardResources } := by
  induction es generalizing q with
  | nil =>
    obtain rfl : q = q' := Except.ok.inj h
    exact ⟨q.cardResources, rfl⟩
  | cons e es ih =>
    obtain ⟨q₁, h₁, h⟩ := bind_eq_ok.1 (List.foldlM_cons.symm.trans h)
    unfold layResources at h₁
    split at h₁
    · cases h₁
    · cases h₁
      obtain ⟨cardResources, rfl⟩ := ih h
      exact ⟨cardResources, rfl⟩

end Player

namespace PlayerSetup

variable {s : PlayerSetup} {q : Player}

/-- Whoever is set up with well-made cards is seated, and owes nothing. -/
theorem seated (hand : ∀ c ∈ s.hand, c.wellMade = true) (played : ∀ c ∈ s.played, c.wellMade = true)
    (h : s.player = .ok q) : q.Seated ∧ ∀ r, 0 ≤ q.resources.amount r := by
  unfold player at h
  obtain ⟨q₁, hq₁, h⟩ := bind_eq_ok.1 h
  obtain ⟨cardResources, rfl⟩ := Player.layAll_eq_ok hq₁
  split at h
  · cases h
  next solvent =>
    cases h
    constructor
    · refine Player.Seated.setCardResources (Player.Seated.putAllIntoPlay ?_ played) cardResources
      exact .of_nil rfl hand rfl rfl
    · intro r
      rw [Pool.amount, Table.getD]
      cases hn : Table.get? _ r with
      | none => exact Int.le_refl 0
      | some n =>
        have listed := List.find?_eq_none.1 solvent (r, n) (Table.get?_eq_some_iff.1 hn)
        exact Int.not_lt.1 fun less => listed (decide_eq_true less)

end PlayerSetup

/-! ## Games that are about to start -/

/-- A player who was set up with built-in cards, produces no less than the floor, and has resources
only on cards that can hold them. -/
structure Player.Opening (q : Player) : Prop where
  setup : ∃ s : PlayerSetup, s.player = .ok q ∧ (∀ c ∈ s.hand, c.BuiltIn) ∧
    ∀ c ∈ s.played, c.BuiltIn
  production : ∀ r, q.productionFloor (some r) ≤ q.productionOf (some r)
  cardResources : ∀ h n, q.cardResources.get? h = some n →
    0 ≤ n ∧ ∃ c, q.played? h.instanceId = some c ∧ c.card.supportedResource? = some h.kind

theorem Player.Opening.sound_fit {q : Player} (opening : q.Opening) : q.Sound ∧ q.Fit := by
  obtain ⟨s, hs, hand, played⟩ := opening.setup
  obtain ⟨seated, balances⟩ := PlayerSetup.seated (fun c hc => (hand c hc).wellMade)
    (fun c hc => (played c hc).wellMade) hs
  refine ⟨⟨balances, seated.distinct, seated.below, ?_, ?_, ?_⟩,
    ⟨opening.production, seated.hand, seated.played, seated.effects⟩⟩
  · intro h n hn
    obtain ⟨enough, c, hc, holds⟩ := opening.cardResources h n hn
    obtain ⟨mem, id⟩ := Player.mem_of_played? hc
    exact ⟨enough, c, mem, id, holds⟩
  · intro i hi
    rw [seated.tapped] at hi
    cases hi
  · intro e he
    obtain ⟨c, hc, -⟩ := seated.effects e he
    exact ⟨c, Player.mem_of_played? hc⟩

namespace Game

variable {g : Game}

/-- A game with the built-in cards that is about to start: the board is empty, and nobody has
claimed or funded anything. -/
structure Opening (g : Game) : Prop where
  board : g.board = .standard
  players : ∀ p q, g.player? p = some q → q.Opening
  deck : ∀ c ∈ g.deck, c.BuiltIn
  discard : ∀ c ∈ g.discard, c.BuiltIn
  claimed : g.claimed = ∅
  funded : g.funded = ∅

/-- An opening is a regular game. -/
theorem Opening.regular (opening : g.Opening) : g.Regular where
  sound := by
    refine ⟨fun p q hq => (opening.players p q hq).sound_fit.1, ?_, ?_, ?_, ?_, ?_⟩
    · rw [opening.board]
      exact Board.sound_standard
    · rw [opening.claimed]
      exact nofun
    · rw [opening.claimed]
      exact Nat.zero_le _
    · rw [opening.funded]
      exact nofun
    · rw [opening.funded]
      exact Nat.zero_le _
  owned := by
    rw [opening.board]
    exact Board.owned_standard
  stocked := by
    refine ⟨fun p q hq => (opening.players p q hq).sound_fit.2, by rw [opening.board], ?_, ?_⟩
    · exact fun c hc => (opening.deck c hc).wellMade
    · exact fun c hc => (opening.discard c hc).wellMade

end Game

end Terraforming
