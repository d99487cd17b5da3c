import Terraforming.Proofs.Game.Scoring
import Terraforming.Proofs.Game.Violations
import Terraforming.Proofs.Search.Orderings
import Terraforming.Proofs.Turn.Inventory
import Terraforming.Service.Queries

/-!
# Games that can be presented

A regular game that can also be scored and written, and in which an operation that is turned away is
turned away as a violation.  Play keeps it so, and so do operations that bring in nothing which is not
well made.

* `Game.Presentable` — the invariant, with `scores_answers` and `dump_answers`;
* `Presentable.execute`, `Presentable.attempt`, `Presentable.advance`, `Presentable.takesTurns` — what
  keeps it;
* `Regular.legalActions_answers` — what a player could do can always be listed;
* `Presentable.playSummary_answers` — every play that a search finds can be summed up.
-/

namespace Terraforming

/-! ## Proper operations -/

/-- The cards that the command brings into the game can be scored. -/
def Command.Scorable : Command → Prop
  | .purchaseCards _ cards => ∀ c ∈ cards, c.scorable = true
  | _ => True

/-- The operation is incomplete, or it takes nothing from a rating, and what it brings in makes
sense. -/
def Operation.Proper (g : Game) (o : Operation) : Prop :=
  ∀ c, o.command? = .ok c → c.Proper g ∧ c.Scorable

namespace Game

variable {g g' : Game} {p : PlayerId} {q : Player} {o : Operation} {a : Attempt}

/-! ## The invariant -/

/-- A regular game with all entries and labels, whose cards can be scored. -/
structure Presentable (g : Game) : Prop where
  regular : g.Regular
  equipped : g.Equipped
  cards : ∀ c ∈ g.inventory, c.scorable = true

namespace Presentable

theorem scorable (presentable : g.Presentable) : g.Scorable :=
  scorable_of_inventory presentable.cards presentable.regular.sound.awards

/-- It can be scored. -/
theorem scores_answers (presentable : g.Presentable) : ∃ ns, g.scores = .ok ns :=
  presentable.scorable.scores_answers

/-- It can be written. -/
theorem dump_answers (presentable : g.Presentable) : ∃ j, g.dump = .ok j := by
  refine ⟨Wire.writeGame g, ?_⟩
  rw [dump, Board.unwritable_eq_nil_iff.2 presentable.equipped.labels]

/-! ## What keeps it -/

/-- A proper operation that is accepted. -/
theorem execute (presentable : g.Presentable) (proper : o.Proper g)
    (h : g.execute o = .accepted g') : g'.Presentable := by
  obtain ⟨c, g₁, hc, hr, rfl⟩ := execute_eq_accepted.1 h
  have reaches := reaches_run presentable.regular hc (proper c hc).1 hr
  refine ⟨reaches.regular, execute_equipped presentable.equipped h, ?_⟩
  by_cases purchase : o.type = .purchaseCards
  · obtain ⟨p, hp, -, brought⟩ := buys_execute purchase h
    have bought : o.command? = .ok (.purchaseCards p o.cards) := by
      rw [Operation.command?_eq_ok, Operation.complete?, purchase, hp]
      rfl
    have made : ∀ d ∈ o.cards, d.scorable = true := (proper _ bought).2
    intro d hd
    rw [brought, Multiset.mem_add] at hd
    rcases hd with hd | hd
    · exact presentable.cards d hd
    · obtain ⟨e, he, rfl⟩ := List.mem_map.1 (Multiset.mem_coe.1 hd)
      exact made e he
  · have kept : ({ g₁ with log := g₁.log ++ [o] } : Game).inventory = g.inventory := by
      have same := inventory_execute (g := g) purchase
      rwa [h] at same
    rw [kept]
    exact presentable.cards

/-- Going over to the game that an attempt leads to. -/
theorem attempt (presentable : g.Presentable) (h : Attempts g a) (orderly : a.Orderly g p)
    (hg : a.game? = some g') : g'.Presentable := by
  refine ⟨?_, executeAll_equipped presentable.equipped (h.replays g' hg), ?_⟩
  · have noneOpen : ∀ o ∈ ([] : List OpenAttempt), o.Live g := nofun
    exact (orderly.live hg noneOpen).1
  · rw [h.inventory g' hg]
    exact presentable.cards

/-- The end of a generation, which nothing stops. -/
theorem advance (presentable : g.Presentable) :
    ∃ g', g.advance = .accepted g' ∧ g'.Presentable := by
  obtain ⟨g', reaches⟩ := reaches_generationEnd presentable.regular
  have accepted : g.advance = .accepted g' := reaches.accepted
  refine ⟨g', accepted, reaches.regular, executeAll_equipped presentable.equipped accepted, ?_⟩
  have kept : g.advance.game.inventory = g.inventory :=
    inventory_executeAll g.unbought_generationEnd
  rw [accepted] at kept
  exact fun c hc => presentable.cards c (kept ▸ hc)

/-- Turns in which cards are played. -/
theorem takesTurns {turns : List TakenTurn} (presentable : g.Presentable)
    (hq : g.player? p = some q) (h : TakesTurns p g turns g') :
    g'.Presentable ∧ ∃ q', g'.player? p = some q' := by
  induction h generalizing q with
  | nil => exact ⟨presentable, q, hq⟩
  | cons complete _ ih =>
    have orderly := (playCard_answers presentable.regular hq _ _).orderly complete
    obtain ⟨q', hq', -⟩ := orderly.2 p q hq
    exact ih (presentable.attempt (.playCard complete) orderly rfl) hq'

end Presentable

/-! ## Listing actions -/

theorem fulfilsAll_answers {rs : List Requirement} (ready : ∀ r ∈ rs, r.ready = true) (b : Board) :
    ∃ met, q.fulfilsAll b rs = .ok met := by
  induction rs with
  | nil => exact ⟨true, rfl⟩
  | cons r rs ih =>
    obtain ⟨first, hf⟩ := fulfils_eq_ok (q := q) (ready r List.mem_cons_self) b
    obtain ⟨rest, hr⟩ := ih fun r' hr' => ready r' (List.mem_cons_of_mem r hr')
    rw [Player.fulfilsAll, hf, ok_bind]
    cases first with
    | true => exact ⟨rest, hr⟩
    | false => exact ⟨false, rfl⟩

/-- Whether a card of the hand can be played is always known. -/
theorem canPlay_answers (regular : g.Regular) (hq : g.player? p = some q) {c : Card}
    (made : c.wellMade = true) : ∃ cost, q.canPlay g.board c = .ok cost := by
  have ready : ∀ r ∈ c.requirements, r.ready = true := fun r hr =>
    Card.ready_of_mem_requirements made hr
  obtain ⟨met, hm⟩ := fulfilsAll_answers (q := q) ready g.board
  obtain ⟨payment, hp, -⟩ := paymentFor_answers regular hq (q.effectiveCost c)
  unfold Player.canPlay Player.meetsRequirements Player.canAfford
  simp only [hm, hp, ok_bind, pure_eq_ok]
  split
  · exact ⟨_, rfl⟩
  · split
    · exact ⟨_, rfl⟩
    · exact ⟨_, rfl⟩

/-- What a player could do can be listed, and every action put into words. -/
theorem Regular.legalActions_answers (regular : g.Regular) (hq : g.player? p = some q) :
    ∃ actions, g.legalActions p = .ok actions ∧
      ∃ words, actions.mapM TurnAction.description = .ok words := by
  have fit := regular.stocked.players p q hq
  obtain ⟨actions, h⟩ := (legalActions_answers_iff hq).2 fun c hc =>
    canPlay_answers regular hq (fit.hand c (mem_of_mem_distinctByName hc))
  refine ⟨actions, h, mapM_total fun a listed => ?_⟩
  cases (mem_legalActions hq h).1 listed <;> exact ⟨_, rfl⟩

/-! ## Searching -/

variable {offered : List Card} {play : GenerationPlay}

theorem TakesTurns.described {turns : List TakenTurn} (h : TakesTurns p g turns g') :
    ∀ t ∈ turns, ∃ w, t.action.description = .ok w := by
  induction h with
  | nil => exact fun t ht => nomatch ht
  | cons _ _ ih => exact List.forall_mem_cons.2 ⟨⟨_, rfl⟩, ih⟩

namespace Presentable

theorem purse (presentable : g.Presentable) (hq : g.player? p = some q) :
    ∃ mc, q.resources.get? .megacredits = some mc :=
  Option.isSome_iff_exists.1 (presentable.equipped.purses p q hq)

/-- A play with good cards leads to such a game. -/
theorem possible (presentable : g.Presentable) (made : ∀ c ∈ offered, c.wellMade = true)
    (scored : ∀ c ∈ offered, c.scorable = true) (possible : play.Possible g p offered) :
    play.game.Presentable ∧ ∃ q, play.game.player? p = some q := by
  obtain ⟨among, -, g₁, turns, -, -, accepted, out, -⟩ := possible
  have proper : (Operation.purchaseCards p play.bought).Proper g := by
    rintro c ⟨⟩
    exact ⟨fun d hd => made d (among.subset hd), fun d hd => scored d (among.subset hd)⟩
  obtain ⟨_, ⟨⟩, ⟨⟨_, _, bought⟩, -, -, -⟩, -⟩ := buys_execute rfl accepted
  exact (presentable.execute proper accepted).takesTurns bought out

/-- It can be summed up. -/
theorem playSummary_answers (presentable : g.Presentable)
    (made : ∀ c ∈ offered, c.wellMade = true) (scored : ∀ c ∈ offered, c.scorable = true)
    (possible : play.Possible g p offered) : ∃ summary, Service.playSummary p play = .ok summary := by
  obtain ⟨after, q, hq⟩ := presentable.possible made scored possible
  obtain ⟨points, scores⟩ := after.scorable.points_answers hq
  obtain ⟨-, -, g₁, turns, -, -, -, out, taken⟩ := possible
  have described : ∀ t ∈ play.turns, ∃ w, t.action.description = .ok w := by
    rw [taken]
    exact List.forall_mem_append.2 ⟨TakesTurns.described out, List.forall_mem_singleton.2 ⟨_, rfl⟩⟩
  obtain ⟨words, hw⟩ := mapM_total described
  exact ⟨_, bind_eq_ok.2 ⟨q, player_eq_ok.2 hq, bind_eq_ok.2 ⟨words, hw,
    bind_eq_ok.2 ⟨points, scores, rfl⟩⟩⟩⟩

end Presentable

end Game

end Terraforming
