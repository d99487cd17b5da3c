import Mathlib.Data.List.Sigma
import Mathlib.Data.List.Sublists
import Terraforming.Proofs.Search.Branches
import Terraforming.Search.Generation

/-!
# The search of a generation is exact

A plan for a generation says which of the offered cards to buy, which cards of the hand to play then
in the order of the hand, and how to answer each decision.  The search finds what each plan leads to
that can be carried out, once for each such plan, and nothing else.

* `GenerationPlan.LeadsTo` — a plan can be carried out, and comes to a certain play;
* `Game.playOrSkip_exact` — the plans for a hand;
* `Game.searchGeneration_exact` — the plans for a generation.
-/

namespace Terraforming

/-! ## Turns that are taken -/

/-- `p` plays cards one after the other, each to the end of its decisions, and these are the turns. -/
inductive TakesTurns (p : PlayerId) : Game → List TakenTurn → Game → Prop
  | nil (g : Game) : TakesTurns p g [] g
  | cons {g g₁ g' : Game} {c : Card} {cs : List Choice} {ops : List Operation}
      {turns : List TakenTurn} : g.playCard p c cs = .ok (.complete ops g₁) →
      TakesTurns p g₁ turns g' → TakesTurns p g (⟨.playCard c, ops⟩ :: turns) g'

/-- The operations of the turns lead from the game before to the game after. -/
theorem TakesTurns.replays {p : PlayerId} {g g' : Game} {turns : List TakenTurn}
    (h : TakesTurns p g turns g') :
    g.executeAll (turns.flatMap (·.operations)) = .accepted g' := by
  induction h with
  | nil => rfl
  | cons first _ ih => exact Game.executeAll_trans ((Game.playCard_begins first).replays _ rfl) ih

/-! ## Plans -/

/-- A card of a hand, with its position there, and the answers to the decisions that it brings. -/
structure PlannedPlay where
  card : Card
  position : Nat
  answers : List Choice

/-- Which of the offered cards to buy, by their positions, and which cards to play then. -/
structure GenerationPlan where
  bought : List (Card × Nat)
  plays : List PlannedPlay

def PlannedPlay.place (x : PlannedPlay) : Card × Nat := (x.card, x.position)

/-- The cards are played one after the other, each to the end of its decisions, and these are the
turns. -/
inductive PlaysOut (p : PlayerId) : Game → List PlannedPlay → List TakenTurn → Game → Prop
  | nil (g : Game) : PlaysOut p g [] [] g
  | cons {g g' : Game} {x : PlannedPlay} {xs : List PlannedPlay} {next : Progress}
      {turns : List TakenTurn} : Completes (g.playCard p x.card ·) x.answers next →
      PlaysOut p next.game xs turns g' →
      PlaysOut p g (x :: xs) (⟨.playCard x.card, next.operations⟩ :: turns) g'

/-- The cards that the plan buys. -/
def GenerationPlan.cards (plan : GenerationPlan) : List Card := plan.bought.map (·.1)

/-- The plan can be carried out from `g` on by `p`, who is offered some cards, and comes to a certain
play: what it buys can be paid for, and then the plays are of cards of the hand in their order. -/
def GenerationPlan.LeadsTo (g : Game) (p : PlayerId) (offered : List Card) (plan : GenerationPlan)
    (play : GenerationPlay) : Prop :=
  plan.bought.Sublist offered.zipIdx ∧
    ∃ q g₁ turns, g.player? p = some q ∧
      (cardPrice * plan.bought.length : Int) ≤ q.balance (some .megacredits) ∧
      g.execute (.purchaseCards p plan.cards) = .accepted g₁ ∧
      (plan.plays.map PlannedPlay.place).Sublist (q.hand ++ plan.cards).zipIdx ∧
      PlaysOut p g₁ plan.plays turns play.game ∧
      play.bought = plan.cards ∧ play.turns = turns ++ [{ action := .pass }]

variable {p : PlayerId} {g g' : Game} {turns turns' : List TakenTurn} {plays : List PlannedPlay}

namespace PlaysOut

theorem unique {g'' : Game} (h : PlaysOut p g plays turns g') (h' : PlaysOut p g plays turns' g'') :
    turns' = turns ∧ g'' = g' := by
  induction h generalizing turns' with
  | nil =>
    cases h'
    exact ⟨rfl, rfl⟩
  | cons first _ ih =>
    cases h' with
    | cons first' rest' =>
      obtain rfl := first.unique first'
      obtain ⟨rfl, rfl⟩ := ih rest'
      exact ⟨rfl, rfl⟩

theorem takesTurns (h : PlaysOut p g plays turns g') : TakesTurns p g turns g' := by
  induction h with
  | nil => exact .nil _
  | cons first _ ih => exact .cons first.complete ih

end PlaysOut

namespace GenerationPlan.LeadsTo

variable {offered : List Card} {plan : GenerationPlan} {play play' : GenerationPlay}

/-- A plan comes to one play only. -/
theorem unique (h : plan.LeadsTo g p offered play) (h' : plan.LeadsTo g p offered play') :
    play' = play := by
  obtain ⟨-, q, g₁, turns, -, -, accepted, -, out, bought, taken⟩ := h
  obtain ⟨-, q', g₁', turns', -, -, accepted', -, out', bought', taken'⟩ := h'
  cases accepted.symm.trans accepted'
  obtain ⟨rfl, game⟩ := out.unique out'
  cases play
  cases play'
  rw [GenerationPlay.mk.injEq]
  exact ⟨bought'.trans bought.symm, taken'.trans taken.symm, game⟩

/-- Buying, playing in the order of the hand and passing are all that a plan comes to. -/
theorem replays (h : plan.LeadsTo g p offered play) :
    g.executeAll (.purchaseCards p play.bought :: play.turns.flatMap (·.operations)) =
      .accepted play.game := by
  obtain ⟨-, q, g₁, turns, -, -, accepted, -, out, bought, taken⟩ := h
  have ops : play.turns.flatMap (·.operations) = turns.flatMap (·.operations) := by
    rw [taken, List.flatMap_append]
    simp
  rw [ops, bought]
  exact Game.executeAll_trans (Game.executeAll_singleton accepted) out.takesTurns.replays

end GenerationPlan.LeadsTo

/-! ## Subsets -/

theorem subsets_eq_sublists {α : Type} (xs : List α) : subsets xs = xs.sublists := by
  induction xs with
  | nil => rfl
  | cons x xs ih =>
    rw [subsets, ih, List.sublists_cons]
    rfl

/-! ## Games that a search goes through -/

/-- What keeps the answers to a decision apart while `p` plays cards: the cards in play of each
player have different ids, and those of `p` are below the next one. -/
structure Game.Spacious (g : Game) (p : PlayerId) : Prop where
  numbered : g.Numbered
  below : ∀ q, g.player? p = some q → ∀ d ∈ q.played, d.instanceId < q.nextInstance

namespace Game

variable {c : Card} {cs : List Choice} {next : Progress}

theorem Spacious.fresh (spacious : g.Spacious p) (q : Player) (hq : g.player? p = some q) :
    ∀ d ∈ q.played, d.instanceId ≠ q.nextInstance :=
  fun d hd => Int.ne_of_lt (spacious.below q hq d hd)

/-- Only what is in play matters. -/
theorem Spacious.of_inPlay (spacious : g.Spacious p)
    (same : ∀ p, (g'.player? p).map Player.inPlay = (g.player? p).map Player.inPlay) :
    g'.Spacious p := by
  refine ⟨spacious.numbered.of_inPlay same, fun q' hq' => ?_⟩
  have here := same p
  rw [hq'] at here
  obtain ⟨q, hq, inPlay⟩ := Option.map_eq_some_iff.1 here.symm
  obtain ⟨played, next⟩ := Prod.mk.inj inPlay
  exact played ▸ next ▸ spacious.below q hq

/-- A card that is played gets an id of its own. -/
theorem Spacious.played (spacious : g.Spacious p)
    (h : Completes (g.playCard p c ·) cs next) : next.game.Spacious p := by
  obtain ⟨q, hq, -, entry⟩ := playCard_cardEnters h.complete rfl
  refine ⟨entry.numbered hq spacious.numbered (spacious.fresh q hq), fun q' hq' => ?_⟩
  obtain ⟨q₁, hq₁, played, nextInstance⟩ := entry.player
  obtain rfl : q₁ = q' := Option.some.inj (hq₁.symm.trans hq')
  rw [played, nextInstance]
  exact Player.below_concat (spacious.below q hq) (Int.le_refl _) c

/-- The resolver does not fail on any card of a hand that a search comes to when it goes through
the hand in order. -/
def AnswersOn (g : Game) (p : PlayerId) (hand : List (Card × Nat)) : Prop :=
  ∀ plays turns g' c n, PlaysOut p g plays turns g' →
    (plays.map PlannedPlay.place ++ [(c, n)]).Sublist hand → ∀ cs, ∃ a, g'.playCard p c cs = .ok a

/-- The resolver does not fail on any card that the search of a generation comes to. -/
def AnswersSearch (g : Game) (p : PlayerId) (offered : List Card) : Prop :=
  ∀ q g₁ (bought : List (Card × Nat)), g.player? p = some q → bought.Sublist offered.zipIdx →
    g.execute (.purchaseCards p (bought.map (·.1))) = .accepted g₁ →
    g₁.AnswersOn p (q.hand ++ bought.map (·.1)).zipIdx

namespace AnswersOn

variable {n : Nat} {hand : List (Card × Nat)}

theorem head (answers : g.AnswersOn p ((c, n) :: hand)) (cs : List Choice) :
    ∃ a, g.playCard p c cs = .ok a :=
  answers [] [] g c n (.nil g) (List.singleton_sublist.2 List.mem_cons_self) cs

theorem skipped (answers : g.AnswersOn p ((c, n) :: hand)) : g.AnswersOn p hand :=
  fun plays turns g' d m played tried => answers plays turns g' d m played (tried.cons _)

theorem played (answers : g.AnswersOn p ((c, n) :: hand))
    (h : Completes (g.playCard p c ·) cs next) : next.game.AnswersOn p hand :=
  fun plays _ g' d m played tried =>
    answers (⟨c, n, cs⟩ :: plays) _ g' d m (.cons (x := ⟨c, n, cs⟩) h played) (tried.cons_cons _)

end AnswersOn

/-! ## Through a hand -/

/-- The play goes on from `g`, where `before` are the turns taken, with some plays in the order of
the hand, and then passes. -/
structure Extends (g : Game) (p : PlayerId) (bought : List Card) (before : List TakenTurn)
    (hand : List (Card × Nat)) (plays : List PlannedPlay) (play : GenerationPlay) : Prop where
  inOrder : (plays.map PlannedPlay.place).Sublist hand
  played : ∃ turns, PlaysOut p g plays turns play.game ∧
    play.turns = before ++ turns ++ [{ action := .pass }]
  bought : play.bought = bought

theorem plays_join (rs : List SearchResult) :
    (SearchResult.join rs).plays = (rs.map (·.plays)).flatten := by
  rw [SearchResult.join, List.flatMap_def]

/-- A choice from a hand plays the first card or leaves it. -/
theorem extends_cons {c : Card} {k : Nat} {hand : List (Card × Nat)} {bought : List Card}
    {before : List TakenTurn} {play : GenerationPlay} :
    g.Extends p bought before ((c, k) :: hand) plays play ↔
      (∃ chain later next, plays = ⟨c, k, chain⟩ :: later ∧ Completes (g.playCard p c ·) chain next ∧
        next.game.Extends p bought (before ++ [⟨.playCard c, next.operations⟩]) hand later play) ∨
      g.Extends p bought before hand plays play := by
  constructor
  · rintro ⟨inOrder, ⟨turns, out, taken⟩, same⟩
    rcases List.sublist_cons_iff.1 inOrder with left | ⟨later, first, rest⟩
    · exact .inr ⟨left, ⟨turns, out, taken⟩, same⟩
    · cases out with
      | nil => cases first
      | @cons _ _ x xs next turns complete out =>
        obtain ⟨place, rfl⟩ := List.cons.inj first
        cases x
        cases place
        exact .inl ⟨_, xs, next, rfl, complete, rest, ⟨turns, out, by simpa using taken⟩, same⟩
  · rintro (⟨chain, later, next, rfl, complete, inOrder, ⟨turns, out, taken⟩, same⟩ | h)
    · exact ⟨inOrder.cons_cons _, ⟨_, .cons complete out, by simpa using taken⟩, same⟩
    · exact ⟨h.inOrder.cons _, h.played, h.bought⟩

/-- A card that is played first has one list of plays for each chain of answers, and no two lists have a
choice in common. -/
theorem enumerates_played {c : Card} {k : Nat} {hand : List (Card × Nat)} {bought : List Card}
    {before : List TakenTurn} {chains : List (List Choice)} {nexts : List Progress}
    {found : List (List GenerationPlay)} (spacious : g.Spacious p)
    (order : chains.Pairwise (Precedes (g.playCard p c ·)))
    (values : List.Forall₂ (Completes (g.playCard p c ·)) chains nexts)
    (each : List.Forall₂ (fun next plays => Enumerates (· ≠ ·)
      (next.game.Extends p bought (before ++ [⟨.playCard c, next.operations⟩]) hand) plays) nexts found) :
    Enumerates (· ≠ ·) (fun plays play => ∃ chain ∈ chains, ∃ later, ⟨c, k, chain⟩ :: later = plays ∧
      ∃ next, Completes (g.playCard p c ·) chain next ∧
        next.game.Extends p bought (before ++ [⟨.playCard c, next.operations⟩]) hand later play)
      found.flatten := by
  refine .flatten (forall₂_comp ?_ values each) ?_
  · intro chain next plays complete h
    refine (h.congr fun later play => ?_).map_keys fun later later' apart same => ?_
    · exact ⟨fun h => ⟨next, complete, h⟩, fun ⟨next', complete', h⟩ =>
        complete.unique complete' ▸ h⟩
    · exact apart (List.cons.inj same).2
  · refine order.imp fun apart => ?_
    rintro _ _ _ _ ⟨later, rfl, -⟩ ⟨later', rfl, -⟩ same
    exact ne_of_precedes spacious.numbered spacious.fresh apart
      (PlannedPlay.mk.inj (List.cons.inj same).1).2.2

/-- Going through a hand finds what comes of each choice of cards and answers, once. -/
theorem playOrSkip_exact {hand : List Card} {k : Nat} (spacious : g.Spacious p)
    (answers : g.AnswersOn p (hand.zipIdx k)) (bought : List Card) (before : List TakenTurn) :
    ∃ r, playOrSkip p bought hand before g = .ok r ∧
      Enumerates (· ≠ ·) (g.Extends p bought before (hand.zipIdx k)) r.plays := by
  induction hand generalizing g k before with
  | nil =>
    refine ⟨_, rfl, .singleton (k := []) ⟨.slnil, ⟨[], .nil g, ?_⟩, rfl⟩ fun plays play h => ?_⟩
    · rw [List.append_nil]
    · exact List.map_eq_nil_iff.1 (List.sublist_nil.1 h.inOrder)
  | cons c hand ih =>
    rw [List.zipIdx_cons] at answers ⊢
    obtain ⟨bs, hbs, chains, order, values, every⟩ := playBranches_enumerates answers.head
    have further : ∀ next ∈ bs.found, ∃ r,
        playOrSkip p bought hand (before ++ [⟨.playCard c, next.operations⟩]) next.game = .ok r ∧
          Enumerates (· ≠ ·) (next.game.Extends p bought
            (before ++ [⟨.playCard c, next.operations⟩]) (hand.zipIdx (k + 1))) r.plays := by
      intro next hnext
      obtain ⟨chain, -, complete⟩ := exists_left_of_forall₂ values hnext
      exact ih (spacious.played complete) (answers.played complete) _
    obtain ⟨rs, hrs, each⟩ := exists_mapM_eq_ok further
    obtain ⟨r, hr, skipped⟩ := ih spacious answers.skipped before
    refine ⟨.join (.attempts bs.attempts :: rs ++ [r]), ?_, ?_⟩
    · simp only [playOrSkip, hbs, hrs, hr, ok_bind, pure_eq_ok]
    have plays : (SearchResult.join (.attempts bs.attempts :: rs ++ [r])).plays =
        (rs.map (·.plays)).flatten ++ r.plays := by
      simp [plays_join, SearchResult.attempts]
    rw [plays]
    have played := enumerates_played (k := k) spacious order values (List.forall₂_map_right_iff.2 each)
    refine (played.append skipped ?_).congr fun plays play => ?_
    · rintro _ play plays' play' ⟨chain, -, later, rfl, -⟩ h rfl
      have mem : (c, k) ∈ hand.zipIdx (k + 1) := h.inOrder.subset List.mem_cons_self
      exact Nat.not_succ_le_self k (List.le_snd_of_mem_zipIdx mem)
    · rw [extends_cons]
      refine or_congr_left ⟨?_, ?_⟩
      · rintro ⟨chain, -, later, rfl, next, h⟩
        exact ⟨chain, later, next, rfl, h⟩
      · rintro ⟨chain, later, next, rfl, complete, h⟩
        exact ⟨chain, every chain next complete, later, rfl, next, complete, h⟩

/-! ## Buying first -/

/-- Cards are bought when there is a balance that covers them, and declined when it does not. -/
theorem purchase_eq_ok {q : Player} {mc : Int} (hq : g.player? p = some q)
    (purse : q.resources.get? .megacredits = some mc) (cards : List Card) :
    (¬(cardPrice * cards.length : Int) ≤ q.balance (some .megacredits) ∧
        g.purchase p cards = .ok none) ∨
      ((cardPrice * cards.length : Int) ≤ q.balance (some .megacredits) ∧
        ∃ g₁ q₁, g.purchase p cards = .ok (some g₁) ∧
          g.execute (.purchaseCards p cards) = .accepted g₁ ∧ g₁.player? p = some q₁ ∧
          q₁.hand = q.hand ++ cards ∧
          ∀ p', (g₁.player? p').map Player.inPlay = (g.player? p').map Player.inPlay) := by
  have balance : q.balance (some .megacredits) = mc := by
    rw [Player.balance, Option.map_some, Option.getD_some, Pool.amount, Table.getD, purse]
    rfl
  have covered : q.canPurchase cards.length =
      decide ((cardPrice * cards.length : Int) ≤ q.balance (some .megacredits)) := rfl
  simp only [purchase, player_eq_ok.2 hq, ok_bind, covered]
  by_cases enough : (cardPrice * cards.length : Int) ≤ q.balance (some .megacredits)
  · have run := purchaseCards_eq_ok.2 ⟨q, mc, hq, purse, balance ▸ enough, rfl⟩
    have accepted : g.execute (.purchaseCards p cards) = .accepted _ :=
      execute_eq_accepted.2 ⟨.purchaseCards p cards, _, rfl, run, rfl⟩
    refine .inr ⟨enough, _, _, ?_, accepted, player?_withPlayer.trans (if_pos rfl), rfl, ?_⟩
    · simp [enough, accepted, Outcome.toExcept]
    · exact inPlay_withPlayer hq rfl
  · exact .inl ⟨enough, by simp [enough]⟩

/-- What a search finds after a purchase, counted. -/
def afterPurchase (r : SearchResult) : SearchResult :=
  .join [{ counts := { subsets := 1, affordable := 1 } }, r]

@[simp] theorem plays_afterPurchase (r : SearchResult) : (afterPurchase r).plays = r.plays := by
  simp [afterPurchase, plays_join]

theorem searchAfter_declined {order : Bool} {cards : List Card}
    (declined : g.purchase p cards = .ok none) :
    g.searchAfter p order cards = .ok { counts := { subsets := 1 } } := by
  simp only [searchAfter, declined, ok_bind, pure_eq_ok]

theorem searchAfter_inOrder {g₁ : Game} {q₁ : Player} {cards : List Card} {r : SearchResult}
    (purchased : g.purchase p cards = .ok (some g₁)) (hq₁ : g₁.player? p = some q₁)
    (found : playOrSkip p cards q₁.hand [] g₁ = .ok r) :
    g.searchAfter p false cards = .ok (afterPurchase r) := by
  simp [searchAfter, purchased, player_eq_ok.2 hq₁, found, afterPurchase]

/-- After some of the offered cards were bought, or declined. -/
theorem searchAfter_exact {offered : List Card} {q : Player} {mc : Int}
    (spacious : g.Spacious p) (hq : g.player? p = some q)
    (purse : q.resources.get? .megacredits = some mc) {bought : List (Card × Nat)}
    (among : bought.Sublist offered.zipIdx)
    (answers : ∀ g₁, g.execute (.purchaseCards p (bought.map (·.1))) = .accepted g₁ →
      g₁.AnswersOn p (q.hand ++ bought.map (·.1)).zipIdx) :
    ∃ r, g.searchAfter p false (bought.map (·.1)) = .ok r ∧
      Enumerates (· ≠ ·) (fun (plan : GenerationPlan) play =>
        plan.bought = bought ∧ plan.LeadsTo g p offered play) r.plays := by
  obtain ⟨short, declined⟩ | ⟨enough, g₁, q₁, purchased, accepted, hq₁, hand, inPlay⟩ :=
    purchase_eq_ok hq purse (bought.map (·.1))
  · refine ⟨_, searchAfter_declined declined, .nil ?_⟩
    · rintro plan play ⟨rfl, -, q', g₁, turns, hq', enough, -⟩
      obtain rfl : q' = q := Option.some.inj (hq'.symm.trans hq)
      rw [List.length_map] at short
      exact short enough
  · have answers₁ := answers g₁ accepted
    rw [← hand] at answers₁
    obtain ⟨r, hr, enumerates⟩ := playOrSkip_exact (spacious.of_inPlay inPlay) answers₁
      (bought.map (·.1)) []
    refine ⟨afterPurchase r, searchAfter_inOrder purchased hq₁ hr, ?_⟩
    · rw [plays_afterPurchase]
      refine (enumerates.map_keys (f := fun plays => GenerationPlan.mk bought plays) ?_).congr ?_
      · intro plays plays' apart same
        exact apart (GenerationPlan.mk.inj same).2
      · intro plan play
        constructor
        · rintro ⟨plays, rfl, inOrder, ⟨turns, out, taken⟩, same⟩
          rw [List.length_map] at enough
          exact ⟨rfl, among, q, g₁, turns, hq, enough, accepted, hand ▸ inOrder, out, same, taken⟩
        · rintro ⟨rfl, -, q', g₁', turns, hq', -, accepted', inOrder, out, same, taken⟩
          obtain rfl : q' = q := Option.some.inj (hq'.symm.trans hq)
          cases accepted.symm.trans accepted'
          exact ⟨plan.plays, rfl, hand ▸ inOrder, ⟨turns, out, taken⟩, same⟩

/-- A search over few enough cards joins what it finds after each purchase. -/
theorem searchGeneration_eq_join {offered : List Card} {order : Bool} {rs : List SearchResult}
    (few : offered.length ≤ maxOffered)
    (found : (subsets offered).mapM (g.searchAfter p order) = .ok rs) :
    g.searchGeneration p offered order = .ok (.join rs) := by
  rw [searchGeneration, if_neg (Nat.not_lt.2 few)]
  simp only [found, ok_bind, pure_eq_ok]

/-- The choices of some of the offered cards, by their positions. -/
theorem subsets_offered (offered : List Card) :
    subsets offered = offered.zipIdx.sublists.map (List.map Prod.fst) := by
  rw [subsets_eq_sublists, ← List.sublists_map, List.zipIdx_map_fst]

/-- **The search of a generation is sound and complete.**  In a game where the cards in play of
every player have different ids, those of `p` below the next one, and where `p` has a balance of
megacredits, a search over at most ten offered cards that the resolver never fails in comes to an
end, and finds just what the plans for the generation lead to, once for each.  The purchase and the
operations of the turns take the game to where the play ends. -/
theorem searchGeneration_exact {offered : List Card} (few : offered.length ≤ maxOffered)
    (spacious : g.Spacious p)
    (purse : ∃ q mc, g.player? p = some q ∧ q.resources.get? .megacredits = some mc)
    (answers : g.AnswersSearch p offered) :
    ∃ r, g.searchGeneration p offered = .ok r ∧
      Enumerates (· ≠ ·) (GenerationPlan.LeadsTo g p offered) r.plays ∧
      ∀ play ∈ r.plays,
        g.executeAll (.purchaseCards p play.bought :: play.turns.flatMap (·.operations)) =
          .accepted play.game := by
  obtain ⟨q, mc, hq, purse⟩ := purse
  have each : ∀ bought ∈ offered.zipIdx.sublists, ∃ r,
      g.searchAfter p false (bought.map (·.1)) = .ok r ∧
        Enumerates (· ≠ ·)
          (fun (plan : GenerationPlan) play => plan.bought = bought ∧ plan.LeadsTo g p offered play)
          r.plays := by
    intro bought hb
    have among := List.mem_sublists.1 hb
    exact searchAfter_exact spacious hq purse among fun g₁ => answers q g₁ bought hq among
  obtain ⟨rs, hrs, enumerates⟩ := exists_mapM_eq_ok each
  have every : Enumerates (· ≠ ·) (GenerationPlan.LeadsTo g p offered)
      (SearchResult.join rs).plays := by
    rw [plays_join]
    refine (Enumerates.flatten (List.forall₂_map_right_iff.2 enumerates) ?_).congr ?_
    · have positions := (List.nodup_zipIdx_map_snd offered).of_map
      refine (List.nodup_sublists.2 positions).imp fun apart => ?_
      rintro plan _ plan' _ ⟨rfl, -⟩ ⟨rfl, -⟩ rfl
      exact apart rfl
    · intro plan play
      constructor
      · rintro ⟨bought, -, -, h⟩
        exact h
      · intro h
        exact ⟨plan.bought, List.mem_sublists.2 h.1, rfl, h⟩
  refine ⟨.join rs, ?_, every, fun play hplay => ?_⟩
  · refine searchGeneration_eq_join few ?_
    rw [subsets_offered]
    exact mapM_eq_ok.2 (List.forall₂_map_left_iff.2 (mapM_eq_ok.1 hrs))
  · obtain ⟨plan, h⟩ := every.exists_key hplay
    exact h.replays

/-! ## Regular games -/

theorem Regular.takesTurns {q : Player} (regular : g.Regular) (hq : g.player? p = some q)
    (h : TakesTurns p g turns g') : g'.Regular ∧ ∃ q', g'.player? p = some q' := by
  induction h generalizing q with
  | nil => exact ⟨regular, q, hq⟩
  | cons complete _ ih =>
    obtain ⟨a, played, orderly⟩ := playCard_answers regular hq _ _
    cases played.symm.trans complete
    obtain ⟨regular', kept⟩ := orderly
    obtain ⟨q', hq', -⟩ := kept p q hq
    exact ih regular' hq'

/-- In a regular game, when well-made cards were bought, the resolver fails on no card, whatever was
played before. -/
theorem Regular.answers_of_purchase {cards : List Card} {g₁ : Game} (regular : g.Regular)
    (made : ∀ c ∈ cards, c.wellMade = true)
    (accepted : g.execute (.purchaseCards p cards) = .accepted g₁) (out : TakesTurns p g₁ turns g')
    (c : Card) (cs : List Choice) : ∃ a, g'.playCard p c cs = .ok a := by
  obtain ⟨_, g₂, ⟨⟩, run, rfl⟩ := execute_eq_accepted.1 accepted
  obtain ⟨q, -, hq, -⟩ := purchaseCards_eq_ok.1 run
  have reaches := reaches_run (o := .purchaseCards p cards) regular rfl made run
  obtain ⟨q₁, hq₁⟩ := reaches.player hq
  obtain ⟨regular', q', hq'⟩ := reaches.regular.takesTurns hq₁ out
  exact (playCard_answers regular' hq' c cs).imp fun a h => h.1

theorem Regular.answersSearch {offered : List Card} (regular : g.Regular)
    (made : ∀ c ∈ offered, c.wellMade = true) : g.AnswersSearch p offered := by
  intro q g₁ bought hq among accepted plays turns g' c n out _ cs
  refine regular.answers_of_purchase (fun c hc => made c ?_) accepted out.takesTurns c cs
  have mem := (among.map (·.1)).subset hc
  rwa [List.zipIdx_map_fst] at mem

theorem Regular.spacious (regular : g.Regular) (p : PlayerId) : g.Spacious p :=
  ⟨regular.numbered, fun q hq => (regular.sound.players p q hq).below⟩

theorem outpost_purse :
    ∃ q mc, outpost.player? 1 = some q ∧ q.resources.get? .megacredits = some mc := by
  have rich : (outpost.player? 1).any (fun q => (q.resources.get? .megacredits).isSome) = true := by
    decide +kernel
  obtain ⟨q, hq, rich⟩ := (Option.any_eq_true _ _).1 rich
  obtain ⟨mc, hmc⟩ := Option.isSome_iff_exists.1 rich
  exact ⟨q, mc, hq, hmc⟩

/-- A search in `outpost`, where a virus is offered. -/
theorem searchGeneration_exact_outpost :
    ∃ r, (builtInCards ["Virus"]).length ≤ maxOffered ∧ outpost.Spacious 1 ∧
      (∃ q mc, outpost.player? 1 = some q ∧ q.resources.get? .megacredits = some mc) ∧
      outpost.AnswersSearch 1 (builtInCards ["Virus"]) ∧
      outpost.searchGeneration 1 (builtInCards ["Virus"]) = .ok r ∧
      Enumerates (· ≠ ·) (GenerationPlan.LeadsTo outpost 1 (builtInCards ["Virus"])) r.plays := by
  have few : (builtInCards ["Virus"]).length ≤ maxOffered := by decide +kernel
  have regular := outpost_opening.regular
  have answers : outpost.AnswersSearch 1 (builtInCards ["Virus"]) :=
    regular.answersSearch fun c hc => (builtIn_of_mem hc).wellMade
  obtain ⟨r, hr, enumerates, -⟩ := searchGeneration_exact few (regular.spacious 1) outpost_purse answers
  exact ⟨r, few, regular.spacious 1, outpost_purse, answers, hr, enumerates⟩

/-- A game of one player who has no balance of megacredits at all. -/
def penniless : Game where
  board := .standard
  players := Table.ofList [(1, { id := 1, resources := ∅ })]

theorem penniless_refused : penniless.execute (.purchaseCards 1 []) ≠ .accepted g := by
  intro accepted
  have refused : (penniless.execute (.purchaseCards 1 [])).toExcept.toOption = none := by
    decide +kernel
  rw [accepted] at refused
  cases refused

theorem crowding_purchase : crowding.execute (.purchaseCards 1 []) = .accepted crowded :=
  toExcept_eq_ok.1 (toOption_eq_some.1 (by decide +kernel))

theorem crowding_hand {q : Player} (hq : crowding.player? 1 = some q) : q.hand = [pond] := by
  have hand : (crowding.player? 1).map (·.hand) = some [pond] := by decide +kernel
  rw [hq] at hand
  exact Option.some.inj hand

/-- In `crowding`, with no cards offered, one card can be played or not: there are two plans. -/
theorem plans_of_crowding {plan : GenerationPlan} {play : GenerationPlay}
    (h : plan.LeadsTo crowding 1 [] play) :
    plan = ⟨[], []⟩ ∨ plan = ⟨[], [⟨pond, 0, [.ofCard (1, 0)]⟩]⟩ := by
  obtain ⟨bought, plays⟩ := plan
  obtain ⟨among, q, g₁, turns, hq, -, accepted, inOrder, out, -⟩ := h
  obtain rfl : bought = [] := List.sublist_nil.1 among
  cases crowding_purchase.symm.trans accepted
  rw [crowding_hand hq] at inOrder
  rcases List.sublist_cons_iff.1 inOrder with none | ⟨later, first, none⟩
  · obtain rfl : plays = [] := List.map_eq_nil_iff.1 (List.sublist_nil.1 none)
    exact .inl rfl
  · obtain rfl := List.sublist_nil.1 none
    obtain ⟨x, rfl, place⟩ := List.map_eq_singleton_iff.1 first
    cases x
    cases place
    cases out with
    | cons complete _ =>
      obtain rfl := crowded_doubled.2.1 _ _ complete
      exact .inr rfl

theorem crowding_answersSearch : crowding.AnswersSearch 1 [] := by
  intro q g₁ bought hq among accepted plays turns g' c n out tried
  obtain rfl : bought = [] := List.sublist_nil.1 among
  cases crowding_purchase.symm.trans accepted
  rw [crowding_hand hq] at tried
  have first := tried.length_le
  cases plays with
  | cons x xs => simp at first
  | nil =>
    cases out
    cases List.mem_singleton.1 (tried.subset List.mem_cons_self)
    exact crowded_doubled.1

/-- Where the next card comes into play under the id of another, a plan can be found twice; and
where there is no balance of megacredits, not even the plan to do nothing is found. -/
theorem searchGeneration_inexact :
    (crowding.AnswersSearch 1 [] ∧ ¬∃ r, crowding.searchGeneration 1 [] = .ok r ∧
        Enumerates (· ≠ ·) (GenerationPlan.LeadsTo crowding 1 []) r.plays) ∧
      penniless.AnswersSearch 1 [] ∧ ¬∃ r, penniless.searchGeneration 1 [] = .ok r := by
  refine ⟨⟨crowding_answersSearch, ?_⟩, ?_, ?_⟩
  · rintro ⟨r, hr, keys, distinct, values, -⟩
    have three : r.plays.length = 3 := by
      obtain ⟨next, found⟩ := crowded_doubled.2.2
      have bought : crowding.purchase 1 [] = .ok (some crowded) :=
        toOption_eq_some.1 (by decide +kernel)
      have hand : (crowded.player? 1).map (·.hand) = some [pond] := by decide +kernel
      obtain ⟨q, hq, hand⟩ := Option.map_eq_some_iff.1 hand
      simp [searchGeneration, subsets, searchAfter, bought, player_eq_ok.2 hq, hand, playOrSkip, found,
        maxOffered] at hr
      rw [← hr]
      rfl
    have plans : ∀ k ∈ keys, k = ⟨[], []⟩ ∨ k = ⟨[], [⟨pond, 0, [.ofCard (1, 0)]⟩]⟩ := by
      intro k hk
      obtain ⟨play, -, h⟩ := exists_right_of_forall₂ values hk
      exact plans_of_crowding h
    have length := values.length_eq
    rw [three] at length
    obtain ⟨k₁, k₂, k₃, rfl⟩ := List.length_eq_three.1 length
    -- of three plans two are the same
    have first := plans k₁ (by simp)
    have second := plans k₂ (by simp)
    have third := plans k₃ (by simp)
    simp only [List.pairwise_cons, List.mem_cons] at distinct
    grind
  · intro q g₁ bought hq among accepted
    obtain rfl : bought = [] := List.sublist_nil.1 among
    exact absurd accepted penniless_refused
  · rintro ⟨r, hr⟩
    have failed : (penniless.searchGeneration 1 []).toOption.isNone = true := by decide +kernel
    rw [hr] at failed
    cases failed

end Game

end Terraforming
