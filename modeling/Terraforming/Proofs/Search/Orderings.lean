import Terraforming.Proofs.Search.Generation
import Terraforming.Proofs.Turn.Legal

/-!
# The search of all orders of play

Here cards are played in any order, and those that are drawn on the way as well.  Each play takes a
card out of the hands and piles and none comes back, so that the search ends before its limit; and
where cards of one name are the same, nothing is lost by trying one card of each name.

* `GenerationPlay.Possible` — a purchase, plays of cards that are in the hand then, and a pass;
* `Game.playInAnyOrder_succ` — the limit is never what ends the search;
* `Game.playInAnyOrder_finds` — what is found after a purchase;
* `Game.searchGeneration_anyOrder` — what is found.
-/

namespace Terraforming

/-! ## Possible plays -/

/-- From `g` on, `p` can spend the generation like this: buy some of the offered cards, play cards,
each of which is in the hand then, and pass. -/
def GenerationPlay.Possible (g : Game) (p : PlayerId) (offered : List Card)
    (play : GenerationPlay) : Prop :=
  play.bought.Sublist offered ∧
    ∃ q g₁ turns, g.player? p = some q ∧
      (cardPrice * play.bought.length : Int) ≤ q.balance (some .megacredits) ∧
      g.execute (.purchaseCards p play.bought) = .accepted g₁ ∧
      TakesTurns p g₁ turns play.game ∧ play.turns = turns ++ [{ action := .pass }]

/-! ## The same play -/

/-- The turn with every card in normal form. -/
def TakenTurn.normal (t : TakenTurn) : TakenTurn :=
  ⟨{ t.action with card := t.action.card.map Card.normal }, t.operations.map Operation.normal⟩

/-- The play with every card in normal form: two plays are the same when these are. -/
def GenerationPlay.normal (play : GenerationPlay) : GenerationPlay :=
  ⟨play.bought.map Card.normal, play.turns.map TakenTurn.normal, play.game.normal⟩

namespace Game

variable {g g' g₁ h : Game} {p : PlayerId} {q : Player} {c : Card} {cs : List Choice}
  {ops : List Operation} {turns before : List TakenTurn} {bought : List Card}

/-! ## Fewer cards with each play -/

theorem card_loose (g : Game) : g.loose.card = g.cardsOutOfPlay := by
  have hands : ∀ qs : List Player,
      (qs.flatMap (·.hand)).length = total (qs.map fun q => q.hand.length) := by
    intro qs
    induction qs with
    | nil => rfl
    | cons q qs ih => simp [ih]
  simp [loose, cardsOutOfPlay, hands, Nat.add_assoc]

/-- A play takes one card out of the hands and piles. -/
theorem cardsOutOfPlay_of_playCard (h : g.playCard p c cs = .ok (.complete ops g')) :
    g.cardsOutOfPlay = g'.cardsOutOfPlay + 1 := by
  obtain ⟨q, -, -, entry⟩ := playCard_cardEnters h rfl
  obtain ⟨d, -, taken⟩ := entry.taken
  rw [← card_loose, ← card_loose, ← taken, Multiset.card_cons]

/-! ## Games that the search comes to -/

/-- The resolver does not fail on any card of the hand, whatever was played before. -/
def AnswersTurns (g : Game) (p : PlayerId) : Prop :=
  ∀ turns g' q, TakesTurns p g turns g' → g'.player? p = some q → ∀ c ∈ q.hand, ∀ cs,
    ∃ a, g'.playCard p c cs = .ok a

/-- The resolver does not fail on any card that the search of a generation comes to. -/
def AnswersInAnyOrder (g : Game) (p : PlayerId) (offered : List Card) : Prop :=
  ∀ bought g₁, bought.Sublist offered → g.execute (.purchaseCards p bought) = .accepted g₁ →
    g₁.AnswersTurns p

/-- What the search relies on: `p` is there, the hands and piles hold known cards, and the resolver
does not fail. -/
structure Playable (g : Game) (p : PlayerId) (known : List Card) : Prop where
  player : ∃ q, g.player? p = some q
  loose : ∀ c ∈ g.loose, c ∈ known
  answers : g.AnswersTurns p

namespace Playable

variable {known : List Card}

theorem played (playable : g.Playable p known) (h : g.playCard p c cs = .ok (.complete ops g')) :
    g'.Playable p known := by
  obtain ⟨q, hq, -, entry⟩ := playCard_cardEnters h rfl
  obtain ⟨d, -, taken⟩ := entry.taken
  refine ⟨?_, fun e he => playable.loose e ?_, fun turns g₂ q₂ out => ?_⟩
  · obtain ⟨q', hq', -⟩ := entry.player
    exact ⟨q', hq'⟩
  · rw [← taken]
    exact Multiset.mem_cons_of_mem he
  · exact playable.answers _ g₂ q₂ (.cons h out)

/-- What is not in the hand is refused, and what is the same as a card of the hand is answered as that
card. -/
theorem answersAll (playable : g.Playable p known) (c : Card) (cs : List Choice) :
    ∃ a, g.playCard p c cs = .ok a := by
  obtain ⟨q, hq⟩ := playable.player
  cases held : q.holds c with
  | false => simp [playCard, player_eq_ok.2 hq, playRefusal?, held]
  | true =>
    obtain ⟨d, hd, same, -⟩ := exists_cons_erase held
    exact playCard_ok_alike rfl (Card.beq_iff.1 same) (playable.answers [] g q (.nil g) hq d hd cs)

/-- Among the cards of the hand that are tried there is one that comes to the same. -/
theorem exists_tried (playable : g.Playable p known) (tells : NamesTell known)
    (hq : g.player? p = some q) (game : h.normal = g.normal)
    (complete : h.playCard p c cs = .ok (.complete ops g')) :
    ∃ d ∈ distinctByName q.hand, d.normal = c.normal ∧
      ∃ ops' g₁, g.playCard p d cs = .ok (.complete ops' g₁) ∧ g₁.normal = g'.normal ∧
        ops'.map Operation.normal = ops.map Operation.normal := by
  obtain ⟨_, _, here, -⟩ := playCard_complete_alike game rfl complete
  obtain ⟨q', hq', held, -⟩ := playCard_cardEnters here rfl
  obtain rfl : q' = q := Option.some.inj (hq'.symm.trans hq)
  obtain ⟨e, he, same, -⟩ := exists_cons_erase held
  obtain ⟨d, hd, name⟩ := exists_mem_distinctByName he
  have known : ∀ c ∈ q'.hand, c ∈ known := fun c hc => playable.loose c (mem_loose_of_hand hq hc)
  have alike : (d == e) = true := tells d (known d (mem_of_mem_distinctByName hd)) e (known e he) name
  have normal : d.normal = c.normal := (Card.beq_iff.1 alike).trans (Card.beq_iff.1 same)
  exact ⟨d, hd, normal, playCard_complete_alike game normal.symm complete⟩

end Playable

/-! ## The limit -/

variable {known : List Card} {limit : Nat}

theorem hand_eq_nil (hq : g.player? p = some q) (none : g.cardsOutOfPlay = 0) : q.hand = [] := by
  rw [← card_loose, Multiset.card_eq_zero] at none
  refine List.eq_nil_iff_forall_not_mem.2 fun c hc => ?_
  have mem := mem_loose_of_hand hq hc
  rw [none] at mem
  exact Multiset.notMem_zero c mem

/-- The plays that start with one card, as far as the limit goes. -/
def playFirst (g : Game) (p : PlayerId) (bought : List Card) (limit : Nat)
    (before : List TakenTurn) (c : Card) : Except Fault SearchResult := do
  let plays ← g.playBranches p c
  let further ← plays.found.mapM fun next =>
    playInAnyOrder p bought limit (before ++ [⟨.playCard c, next.operations⟩]) next.game
  return .join (.attempts plays.attempts :: further)

theorem playInAnyOrder_eq (hq : g.player? p = some q) (bought : List Card) (limit : Nat)
    (before : List TakenTurn) :
    playInAnyOrder p bought (limit + 1) before g = do
      let played ← (distinctByName q.hand).mapM (g.playFirst p bought limit before)
      return .join (.leaf bought before g :: played) := by
  rw [playInAnyOrder]
  simp only [player_eq_ok.2 hq, ok_bind]
  rfl

/-- The search ends before its limit: with a higher one it finds the same. -/
theorem playInAnyOrder_succ (playable : g.Playable p known) (enough : g.cardsOutOfPlay ≤ limit)
    (bought : List Card) (before : List TakenTurn) :
    playInAnyOrder p bought (limit + 1) before g = playInAnyOrder p bought limit before g := by
  obtain ⟨q, hq⟩ := playable.player
  induction limit generalizing g q before with
  | zero =>
    rw [playInAnyOrder_eq hq, hand_eq_nil hq (Nat.le_zero.1 enough)]
    rfl
  | succ limit ih =>
    have first : ∀ c ∈ distinctByName q.hand,
        g.playFirst p bought (limit + 1) before c = g.playFirst p bought limit before c := by
      intro c _
      have answers := playable.answersAll c
      obtain ⟨bs, hbs, enumerates⟩ := playBranches_enumerates answers
      have further : ∀ next ∈ bs.found,
          playInAnyOrder p bought (limit + 1) (before ++ [⟨.playCard c, next.operations⟩]) next.game =
            playInAnyOrder p bought limit (before ++ [⟨.playCard c, next.operations⟩]) next.game := by
        intro next hnext
        obtain ⟨cs, complete⟩ := (mem_found_iff answers enumerates next).1 hnext
        have fewer := cardsOutOfPlay_of_playCard complete
        have playable' := playable.played complete
        obtain ⟨q', hq'⟩ := playable'.player
        exact ih playable' (by omega) _ q' hq'
      simp only [playFirst, hbs, ok_bind, mapM_congr further]
    rw [playInAnyOrder_eq hq, playInAnyOrder_eq hq, mapM_congr first]

/-- So any limit that is high enough finds the same. -/
theorem playInAnyOrder_of_le (playable : g.Playable p known) (enough : g.cardsOutOfPlay ≤ limit)
    (bought : List Card) (before : List TakenTurn) :
    playInAnyOrder p bought limit before g = playInAnyOrder p bought g.cardsOutOfPlay before g := by
  induction limit, enough using Nat.le_induction with
  | base => rfl
  | succ limit enough ih => rw [playInAnyOrder_succ playable enough, ih]

/-! ## What is found -/

/-- The play goes on from `g`, where `before` are the turns taken, with plays in any order, and then
passes. -/
def Continues (g : Game) (p : PlayerId) (bought : List Card) (before : List TakenTurn)
    (play : GenerationPlay) : Prop :=
  ∃ turns, TakesTurns p g turns play.game ∧ play.bought = bought ∧
    play.turns = before ++ turns ++ [{ action := .pass }]

/-- It passes now, or plays a card first. -/
theorem continues_iff {play : GenerationPlay} :
    g.Continues p bought before play ↔
      play = ⟨bought, before ++ [{ action := .pass }], g⟩ ∨
        ∃ c cs ops g₁, g.playCard p c cs = .ok (.complete ops g₁) ∧
          g₁.Continues p bought (before ++ [⟨.playCard c, ops⟩]) play := by
  constructor
  · rintro ⟨turns, out, rfl, taken⟩
    cases out with
    | nil =>
      rw [List.append_nil] at taken
      rw [← taken]
      exact .inl rfl
    | cons complete out =>
      exact .inr ⟨_, _, _, _, complete, _, out, rfl, by simpa using taken⟩
  · rintro (rfl | ⟨c, cs, ops, g₁, complete, turns, out, rfl, taken⟩)
    · exact ⟨[], .nil g, rfl, by rw [List.append_nil]⟩
    · exact ⟨_, .cons complete out, rfl, by simpa using taken⟩

/-- The plays found are those that go on from `g`, every one of them up to the order in which cards
list their production. -/
structure Finds (g : Game) (p : PlayerId) (bought : List Card) (before : List TakenTurn)
    (r : SearchResult) : Prop where
  possible : ∀ play ∈ r.plays, g.Continues p bought before play
  every : ∀ (h : Game) before' play, h.normal = g.normal →
    before'.map TakenTurn.normal = before.map TakenTurn.normal →
      h.Continues p bought before' play → ∃ play' ∈ r.plays, play'.normal = play.normal

theorem mem_plays_join {rs : List SearchResult} {play : GenerationPlay} :
    play ∈ (SearchResult.join rs).plays ↔ ∃ r ∈ rs, play ∈ r.plays := by
  rw [plays_join, ← List.flatMap_def, List.mem_flatMap]

/-- What is found after one card is what is found after each way to play it. -/
theorem playFirst_joins {R : Progress → SearchResult → Prop} (limit : Nat)
    (playable : g.Playable p known) (bought : List Card) (before : List TakenTurn) (c : Card)
    (further : ∀ cs ops g₁, g.playCard p c cs = .ok (.complete ops g₁) →
      ∃ r, playInAnyOrder p bought limit (before ++ [⟨.playCard c, ops⟩]) g₁ = .ok r ∧
        R ⟨g₁, ops⟩ r) :
    ∃ r, g.playFirst p bought limit before c = .ok r ∧
      (∀ play ∈ r.plays, ∃ cs ops g₁ r', g.playCard p c cs = .ok (.complete ops g₁) ∧
        R ⟨g₁, ops⟩ r' ∧ play ∈ r'.plays) ∧
      ∀ cs ops g₁, g.playCard p c cs = .ok (.complete ops g₁) →
        ∃ r', R ⟨g₁, ops⟩ r' ∧ ∀ play ∈ r'.plays, play ∈ r.plays := by
  have answers := playable.answersAll c
  obtain ⟨bs, hbs, enumerates⟩ := playBranches_enumerates answers
  have found := mem_found_iff answers enumerates
  obtain ⟨rs, hrs, each⟩ := exists_mapM_eq_ok fun next hnext =>
    have ⟨cs, complete⟩ := (found next).1 hnext
    further cs next.operations next.game complete
  refine ⟨.join (.attempts bs.attempts :: rs), ?_, ?_, ?_⟩
  · simp only [playFirst, hbs, hrs, ok_bind, pure_eq_ok]
  · intro play hplay
    obtain ⟨r, hr, hplay⟩ := mem_plays_join.1 hplay
    rcases List.mem_cons.1 hr with rfl | hr
    · cases hplay
    · obtain ⟨next, hnext, related⟩ := exists_left_of_forall₂ each hr
      obtain ⟨cs, complete⟩ := (found next).1 hnext
      exact ⟨cs, _, _, r, complete, related, hplay⟩
  · intro cs ops g₁ complete
    obtain ⟨r, hr, related⟩ := exists_right_of_forall₂ each ((found ⟨g₁, ops⟩).2 ⟨cs, complete⟩)
    exact ⟨r, related, fun play hplay => mem_plays_join.2 ⟨r, List.mem_cons_of_mem _ hr, hplay⟩⟩

/-- Whatever the limit, the search in any order finds such plays only. -/
theorem playInAnyOrder_continues (limit : Nat) (playable : g.Playable p known) (bought : List Card)
    (before : List TakenTurn) :
    ∃ r, playInAnyOrder p bought limit before g = .ok r ∧
      ∀ play ∈ r.plays, g.Continues p bought before play := by
  induction limit generalizing g before with
  | zero =>
    refine ⟨_, rfl, fun play hplay => ?_⟩
    obtain rfl := List.mem_singleton.1 hplay
    exact continues_iff.2 (.inl rfl)
  | succ limit ih =>
    obtain ⟨q, hq⟩ := playable.player
    obtain ⟨rs, hrs, each⟩ := exists_mapM_eq_ok fun c (_ : c ∈ distinctByName q.hand) =>
      playFirst_joins (R := fun next r => ∀ play ∈ r.plays,
          next.game.Continues p bought (before ++ [⟨.playCard c, next.operations⟩]) play)
        limit playable bought before c fun cs ops g₁ complete => ih (playable.played complete) _
    refine ⟨.join (.leaf bought before g :: rs), ?_, fun play hplay => ?_⟩
    · simp only [playInAnyOrder_eq hq, hrs, ok_bind, pure_eq_ok]
    · obtain ⟨r, hr, hplay⟩ := mem_plays_join.1 hplay
      rcases List.mem_cons.1 hr with rfl | hr
      · exact continues_iff.2 (.inl (List.mem_singleton.1 hplay))
      · obtain ⟨c, -, plays, -⟩ := exists_left_of_forall₂ each hr
        obtain ⟨cs, ops, g₁, r', complete, continues, hplay⟩ := plays play hplay
        exact continues_iff.2 (.inr ⟨c, cs, ops, g₁, complete, continues play hplay⟩)

/-- Passing at once comes to the same from the same game after the same turns. -/
theorem passes_alike (game : h.normal = g.normal) {before' : List TakenTurn}
    (taken : before'.map TakenTurn.normal = before.map TakenTurn.normal) :
    (GenerationPlay.mk bought (before ++ [{ action := .pass }]) g).normal =
      (GenerationPlay.mk bought (before' ++ [{ action := .pass }]) h).normal := by
  simp only [GenerationPlay.normal, List.map_append, game, taken]

/-- With a limit that is high enough the search in any order finds all plays. -/
theorem playInAnyOrder_finds (tells : NamesTell known) (playable : g.Playable p known)
    (enough : g.cardsOutOfPlay ≤ limit) (bought : List Card) (before : List TakenTurn) :
    ∃ r, playInAnyOrder p bought limit before g = .ok r ∧ g.Finds p bought before r := by
  obtain ⟨q, hq⟩ := playable.player
  induction limit generalizing g q before with
  | zero =>
    refine ⟨_, rfl, fun play hplay => ?_, fun h before' play game taken continues => ?_⟩
    · obtain rfl := List.mem_singleton.1 hplay
      exact continues_iff.2 (.inl rfl)
    · rcases continues_iff.1 continues with rfl | ⟨c, cs, ops, h₁, complete, -⟩
      · exact ⟨_, List.mem_singleton_self _, passes_alike game taken⟩
      · obtain ⟨d, -, -, ops', g₁, here, -⟩ := playable.exists_tried tells hq game complete
        have fewer := cardsOutOfPlay_of_playCard here
        omega
  | succ limit ih =>
    obtain ⟨rs, hrs, each⟩ := exists_mapM_eq_ok fun c (_ : c ∈ distinctByName q.hand) =>
      playFirst_joins (R := fun next r =>
          next.game.Finds p bought (before ++ [⟨.playCard c, next.operations⟩]) r)
        limit playable bought before c fun cs ops g₁ complete => by
        have fewer := cardsOutOfPlay_of_playCard complete
        have playable' := playable.played complete
        obtain ⟨q', hq'⟩ := playable'.player
        exact ih playable' (by omega) _ q' hq'
    refine ⟨.join (.leaf bought before g :: rs), ?_, fun play hplay => ?_,
      fun h before' play game taken continues => ?_⟩
    · simp only [playInAnyOrder_eq hq, hrs, ok_bind, pure_eq_ok]
    · obtain ⟨r, hr, hplay⟩ := mem_plays_join.1 hplay
      rcases List.mem_cons.1 hr with rfl | hr
      · exact continues_iff.2 (.inl (List.mem_singleton.1 hplay))
      · obtain ⟨c, -, plays, -⟩ := exists_left_of_forall₂ each hr
        obtain ⟨cs, ops, g₁, r', complete, finds, hplay⟩ := plays play hplay
        exact continues_iff.2 (.inr ⟨c, cs, ops, g₁, complete, finds.possible play hplay⟩)
    · rcases continues_iff.1 continues with rfl | ⟨c, cs, ops, h₁, complete, onward⟩
      · exact ⟨_, mem_plays_join.2 ⟨_, List.mem_cons_self, List.mem_singleton_self _⟩,
          passes_alike game taken⟩
      · obtain ⟨d, hd, card, ops', g₁, here, after, noted⟩ :=
          playable.exists_tried tells hq game complete
        obtain ⟨r, hr, -, every⟩ := exists_right_of_forall₂ each hd
        obtain ⟨r', finds, among⟩ := every cs ops' g₁ here
        have turns : (before' ++ [TakenTurn.mk (.playCard c) ops]).map TakenTurn.normal =
            (before ++ [TakenTurn.mk (.playCard d) ops']).map TakenTurn.normal := by
          simp only [List.map_append, taken, List.map_cons, TakenTurn.normal, TurnAction.playCard,
            Option.map_some, card, noted, List.map_nil]
        obtain ⟨play', hplay', same⟩ := finds.every h₁ _ play after.symm turns onward
        exact ⟨play', mem_plays_join.2 ⟨r, List.mem_cons_of_mem _ hr, among play' hplay'⟩, same⟩

/-- Going through a hand in order finds only such plays. -/
theorem playOrSkip_continues (playable : g.Playable p known) (bought hand : List Card)
    (before : List TakenTurn) :
    ∃ r, playOrSkip p bought hand before g = .ok r ∧
      ∀ play ∈ r.plays, g.Continues p bought before play := by
  induction hand generalizing g before with
  | nil =>
    refine ⟨_, rfl, fun play hplay => ?_⟩
    obtain rfl := List.mem_singleton.1 hplay
    exact continues_iff.2 (.inl rfl)
  | cons c hand ih =>
    have answers := playable.answersAll c
    obtain ⟨bs, hbs, enumerates⟩ := playBranches_enumerates answers
    have found := mem_found_iff answers enumerates
    obtain ⟨rs, hrs, each⟩ := exists_mapM_eq_ok fun next hnext =>
      have ⟨cs, complete⟩ := (found next).1 hnext
      ih (playable.played complete) (before ++ [⟨.playCard c, next.operations⟩])
    obtain ⟨r, hr, skipped⟩ := ih playable before
    refine ⟨.join (.attempts bs.attempts :: rs ++ [r]), ?_, fun play listed => ?_⟩
    · simp only [playOrSkip, hbs, hrs, hr, ok_bind, pure_eq_ok]
    · obtain ⟨r', hr', hplay⟩ := mem_plays_join.1 listed
      rw [List.cons_append, List.mem_cons, List.mem_append, List.mem_singleton] at hr'
      rcases hr' with rfl | hr' | rfl
      · cases hplay
      · obtain ⟨next, hnext, continues⟩ := exists_left_of_forall₂ each hr'
        obtain ⟨cs, complete⟩ := (found next).1 hnext
        exact continues_iff.2 (.inr ⟨c, cs, _, _, complete, continues play hplay⟩)
      · exact skipped play hplay

/-! ## Buying first -/

variable {offered : List Card} {play : GenerationPlay}

/-- What was bought comes from the offered cards, and the rest was in the game. -/
theorem playable_of_purchase {q₁ : Player} (answers : g.AnswersInAnyOrder p offered)
    (among : bought.Sublist offered) (accepted : g.execute (.purchaseCards p bought) = .accepted g₁)
    (hq₁ : g₁.player? p = some q₁) : g₁.Playable p (g.cards ++ offered) := by
  refine ⟨⟨q₁, hq₁⟩, fun c hc => ?_, answers bought g₁ among accepted⟩
  rw [loose_purchase accepted, Multiset.mem_add] at hc
  rcases hc with hc | hc
  · exact List.mem_append_left _ (mem_cards_of_loose hc)
  · exact List.mem_append_right _ (among.subset (Multiset.mem_coe.1 hc))

theorem playable_of_purchase_eq_some {mc : Int} (hq : g.player? p = some q)
    (purse : q.resources.get? .megacredits = some mc) (answers : g.AnswersInAnyOrder p offered)
    (among : bought.Sublist offered) (purchased : g.purchase p bought = .ok (some g₁)) :
    g₁.Playable p (g.cards ++ offered) := by
  obtain ⟨-, declined⟩ | ⟨-, g₁', q₁, purchased', accepted, hq₁, -⟩ := purchase_eq_ok hq purse bought
  · exact nomatch purchased.symm.trans declined
  · cases purchased.symm.trans purchased'
    exact playable_of_purchase answers among accepted hq₁

/-- After a purchase that is accepted, the possible plays are those that go on from there. -/
theorem possible_iff (among : bought.Sublist offered) (hq : g.player? p = some q)
    (enough : (cardPrice * bought.length : Int) ≤ q.balance (some .megacredits))
    (accepted : g.execute (.purchaseCards p bought) = .accepted g₁) (play : GenerationPlay) :
    play.Possible g p offered ∧ play.bought = bought ↔ g₁.Continues p bought [] play := by
  constructor
  · rintro ⟨⟨-, q', g₁', turns, -, -, accepted', out, taken⟩, rfl⟩
    cases accepted.symm.trans accepted'
    exact ⟨turns, out, rfl, taken⟩
  · rintro ⟨turns, out, rfl, taken⟩
    exact ⟨⟨among, q, g₁, turns, hq, enough, accepted, out, taken⟩, rfl⟩

theorem searchAfter_anyOrder {r : SearchResult} (purchased : g.purchase p bought = .ok (some g₁))
    (found : playInAnyOrder p bought g₁.cardsOutOfPlay [] g₁ = .ok r) :
    g.searchAfter p true bought = .ok (afterPurchase r) := by
  simp [searchAfter, purchased, found, afterPurchase]

/-- Both searches find possible plays only, when they have bought some of the cards. -/
theorem searchAfter_possible {mc : Int} (hq : g.player? p = some q)
    (purse : q.resources.get? .megacredits = some mc) (answers : g.AnswersInAnyOrder p offered)
    (among : bought.Sublist offered) (allOrderings : Bool) :
    ∃ r, g.searchAfter p allOrderings bought = .ok r ∧ ∀ play ∈ r.plays, play.Possible g p offered := by
  obtain ⟨-, declined⟩ | ⟨enough, g₁, q₁, purchased, accepted, hq₁, -⟩ := purchase_eq_ok hq purse bought
  · exact ⟨_, searchAfter_declined declined, fun play hplay => nomatch hplay⟩
  · have playable := playable_of_purchase answers among accepted hq₁
    have possible := possible_iff among hq enough accepted
    cases allOrderings with
    | true =>
      obtain ⟨r, hr, continues⟩ := playInAnyOrder_continues g₁.cardsOutOfPlay playable bought []
      refine ⟨_, searchAfter_anyOrder purchased hr, fun play hplay => ?_⟩
      rw [plays_afterPurchase] at hplay
      exact ((possible play).2 (continues play hplay)).1
    | false =>
      obtain ⟨r, hr, continues⟩ := playOrSkip_continues playable bought q₁.hand []
      refine ⟨_, searchAfter_inOrder purchased hq₁ hr, fun play hplay => ?_⟩
      rw [plays_afterPurchase] at hplay
      exact ((possible play).2 (continues play hplay)).1

/-- What both searches find when they have bought some of the cards. -/
theorem searchAfter_finds {mc : Int} (hq : g.player? p = some q)
    (purse : q.resources.get? .megacredits = some mc) (tells : NamesTell (g.cards ++ offered))
    (answers : g.AnswersInAnyOrder p offered) (among : bought.Sublist offered) :
    (∃ r, g.searchAfter p true bought = .ok r ∧ (∀ play ∈ r.plays, play.Possible g p offered) ∧
        ∀ play : GenerationPlay, play.Possible g p offered → play.bought = bought →
          ∃ play' ∈ r.plays, play'.normal = play.normal) ∧
      ∃ r, g.searchAfter p false bought = .ok r ∧ ∀ play ∈ r.plays, play.Possible g p offered := by
  refine ⟨?_, searchAfter_possible hq purse answers among false⟩
  obtain ⟨short, declined⟩ | ⟨enough, g₁, q₁, purchased, accepted, hq₁, -⟩ :=
    purchase_eq_ok hq purse bought
  · refine ⟨_, searchAfter_declined declined, fun play hplay => (nomatch hplay), ?_⟩
    rintro play ⟨-, q', -, -, hq', enough, -⟩ rfl
    obtain rfl : q' = q := Option.some.inj (hq'.symm.trans hq)
    exact absurd enough short
  · have playable := playable_of_purchase answers among accepted hq₁
    have possible := possible_iff among hq enough accepted
    obtain ⟨r, hr, finds⟩ := playInAnyOrder_finds tells playable (Nat.le_refl _) bought []
    refine ⟨afterPurchase r, searchAfter_anyOrder purchased hr, ?_, ?_⟩
    · rw [plays_afterPurchase]
      exact fun play hplay => ((possible play).2 (finds.possible play hplay)).1
    · rw [plays_afterPurchase]
      exact fun play hp same => finds.every g₁ [] play rfl rfl ((possible play).1 ⟨hp, same⟩)

/-- **The search in any order finds every play.**  Where cards of one name are the same and `p` has a
balance of megacredits, a search over at most ten offered cards that the resolver never fails in
comes to an end before its limit.  It finds possible plays only, and every one of them, up to the
order in which cards list their production; so it finds all that the search in the order of the
hand finds. -/
theorem searchGeneration_anyOrder (few : offered.length ≤ maxOffered)
    (purse : ∃ q mc, g.player? p = some q ∧ q.resources.get? .megacredits = some mc)
    (tells : NamesTell (g.cards ++ offered)) (answers : g.AnswersInAnyOrder p offered) :
    ∃ r d, g.searchGeneration p offered true = .ok r ∧
      (∀ bought g₁ limit, bought.Sublist offered → g.purchase p bought = .ok (some g₁) →
        g₁.cardsOutOfPlay ≤ limit → playInAnyOrder p bought limit [] g₁ =
          playInAnyOrder p bought g₁.cardsOutOfPlay [] g₁) ∧
      (∀ play ∈ r.plays, play.Possible g p offered) ∧
      (∀ play : GenerationPlay, play.Possible g p offered →
        ∃ play' ∈ r.plays, play'.normal = play.normal) ∧
      g.searchGeneration p offered = .ok d ∧
      ∀ play ∈ d.plays, ∃ play' ∈ r.plays, play'.normal = play.normal := by
  obtain ⟨q, mc, hq, purse⟩ := purse
  have mem : ∀ bought, bought ∈ subsets offered ↔ bought.Sublist offered := fun bought => by
    rw [subsets_eq_sublists, List.mem_sublists]
  have each := fun bought (hb : bought ∈ subsets offered) =>
    searchAfter_finds hq purse tells answers ((mem bought).1 hb)
  obtain ⟨rs, hrs, inAnyOrder⟩ := exists_mapM_eq_ok fun bought hb => (each bought hb).1
  obtain ⟨ds, hds, inOrder⟩ := exists_mapM_eq_ok fun bought hb => (each bought hb).2
  have every : ∀ play : GenerationPlay, play.Possible g p offered →
      ∃ play' ∈ (SearchResult.join rs).plays, play'.normal = play.normal := by
    intro play possible
    obtain ⟨r, hr, -, covers⟩ := exists_right_of_forall₂ inAnyOrder ((mem play.bought).2 possible.1)
    obtain ⟨play', hplay', same⟩ := covers play possible rfl
    exact ⟨play', mem_plays_join.2 ⟨r, hr, hplay'⟩, same⟩
  refine ⟨.join rs, .join ds, searchGeneration_eq_join few hrs, ?_, ?_, every,
    searchGeneration_eq_join few hds, ?_⟩
  · intro bought g₁ limit among purchased enough
    exact playInAnyOrder_of_le (playable_of_purchase_eq_some hq purse answers among purchased) enough
      bought []
  · intro play hplay
    obtain ⟨r, hr, hplay⟩ := mem_plays_join.1 hplay
    obtain ⟨bought, -, possible, -⟩ := exists_left_of_forall₂ inAnyOrder hr
    exact possible play hplay
  · intro play hplay
    obtain ⟨d, hd, hplay⟩ := mem_plays_join.1 hplay
    obtain ⟨bought, -, possible⟩ := exists_left_of_forall₂ inOrder hd
    exact every play (possible play hplay)

/-- Without more ado, either search over few enough cards finds possible plays only. -/
theorem searchGeneration_possible {mc : Int} (few : offered.length ≤ maxOffered)
    (hq : g.player? p = some q) (purse : q.resources.get? .megacredits = some mc)
    (answers : g.AnswersInAnyOrder p offered) (allOrderings : Bool) :
    ∃ r, g.searchGeneration p offered allOrderings = .ok r ∧
      ∀ play ∈ r.plays, play.Possible g p offered := by
  obtain ⟨rs, hrs, each⟩ := exists_mapM_eq_ok fun bought (hb : bought ∈ subsets offered) => by
    rw [subsets_eq_sublists, List.mem_sublists] at hb
    exact searchAfter_possible hq purse answers hb allOrderings
  refine ⟨.join rs, searchGeneration_eq_join few hrs, fun play hplay => ?_⟩
  obtain ⟨r, hr, hplay⟩ := mem_plays_join.1 hplay
  obtain ⟨bought, -, possible⟩ := exists_left_of_forall₂ each hr
  exact possible play hplay

/-! ## Regular games -/

theorem Regular.answersInAnyOrder (regular : g.Regular) (made : ∀ c ∈ offered, c.wellMade = true) :
    g.AnswersInAnyOrder p offered :=
  fun _ _ among accepted _ _ _ out _ c _ cs =>
    regular.answers_of_purchase (fun c hc => made c (among.subset hc)) accepted out c cs

/-- A search in `outpost`, where the card that is offered draws two more. -/
theorem searchGeneration_anyOrder_outpost :
    ∃ r d, (builtInCards ["Research"]).length ≤ maxOffered ∧
      (∃ q mc, outpost.player? 1 = some q ∧ q.resources.get? .megacredits = some mc) ∧
      NamesTell (outpost.cards ++ builtInCards ["Research"]) ∧
      outpost.AnswersInAnyOrder 1 (builtInCards ["Research"]) ∧
      outpost.searchGeneration 1 (builtInCards ["Research"]) true = .ok r ∧
      outpost.searchGeneration 1 (builtInCards ["Research"]) = .ok d ∧
      ∀ play ∈ d.plays, ∃ play' ∈ r.plays, play'.normal = play.normal := by
  have few : (builtInCards ["Research"]).length ≤ maxOffered := by decide +kernel
  have tells : NamesTell (outpost.cards ++ builtInCards ["Research"]) := by decide +kernel
  have answers : outpost.AnswersInAnyOrder 1 (builtInCards ["Research"]) :=
    outpost_opening.regular.answersInAnyOrder fun c hc => (builtIn_of_mem hc).wellMade
  obtain ⟨r, d, hr, -, -, -, hd, covered⟩ := searchGeneration_anyOrder few outpost_purse tells answers
  exact ⟨r, d, few, outpost_purse, tells, answers, hr, hd, covered⟩

/-- Where there is no balance of megacredits, not even the play that does nothing is found, although
cards of one name are the same and the resolver never fails. -/
theorem searchGeneration_anyOrder_penniless :
    NamesTell (penniless.cards ++ []) ∧ penniless.AnswersInAnyOrder 1 [] ∧
      ¬∃ r, penniless.searchGeneration 1 [] true = .ok r := by
  refine ⟨by decide +kernel, ?_, ?_⟩
  · intro bought g₁ among accepted
    obtain rfl : bought = [] := List.sublist_nil.1 among
    exact absurd accepted penniless_refused
  · rintro ⟨r, hr⟩
    have failed : (penniless.searchGeneration 1 [] true).toOption.isNone = true := by decide +kernel
    rw [hr] at failed
    cases failed

end Game

end Terraforming
