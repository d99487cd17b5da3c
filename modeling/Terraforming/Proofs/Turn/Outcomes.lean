import Terraforming.Proofs.Game.Commands
import Terraforming.Turn.Play

/-!
# What comes of a turn

Every way to take a turn asks first whether the rules permit it, then pays, and then resolves the impacts
that follow.  Here each of these functions is taken apart once: when it answers, the outcome lists where it
may have ended, with everything that it had found out by then.  What is said of turns elsewhere is read off
these outcomes, one case at a time.

* `Game.playCard_cases`, `Game.revealCard_cases`, `Game.useAction_cases`, `Game.performAction_cases`,
  `Game.performProject_cases`, `Game.claimMilestoneTurn_cases`, `Game.fundAwardTurn_cases` — every way to
  take a turn;
* `Game.takeTurn_cases` — which of them a turn is.
-/

namespace Terraforming

theorem Impact.need_eq_ok {α : Type} {x : Option α} {a : α} : Impact.need x = .ok a ↔ x = some a := by
  cases x <;> simp [need]

namespace Game

variable {g : Game} {p : PlayerId} {q : Player} {cs : List Choice} {a : Attempt} {started : Progress}

/-! ## Playing a card -/

/-- A card that nothing speaks against is in the hand, what is asked for it is there, and its losses
can be borne. -/
theorem playRefusal?_eq_none {c : Card} (h : g.playRefusal? q c = .ok none) :
    q.holds c = true ∧ q.unmetRequirements g.board c = .ok [] ∧ unbearableLoss? q c = none := by
  unfold playRefusal? at h
  split at h
  · cases h
  next held =>
    obtain ⟨reasons, hr, h⟩ := bind_eq_ok.1 h
    split at h
    · cases h
    next met =>
      obtain rfl : reasons = [] := by simpa using met
      exact ⟨by simpa using held, hr, Option.map_eq_none_iff.1 (Except.ok.inj h)⟩

/-- What comes of a card that `q`, who is `p`, plays: it is refused, or it comes into play for what it
costs, the effects react to it, and its impacts are resolved. -/
inductive PlayOutcome (g : Game) (p : PlayerId) (q : Player) (c : Card) (cs : List Choice) :
    Attempt → Prop where
  | refused (r : Refusal) : PlayOutcome g p q c cs (.unplayable r)
  | resolved {payment : Pool} {entered ready : Progress} {a : Attempt} :
      g.playRefusal? q c = .ok none → q.paymentFor (q.effectiveCost c) = .ok (some payment) →
      ({ game := g } : Progress).emit (entryOps p q c payment) = .ok entered →
      entered.emit (entered.game.reactionsToCard p c) = .ok ready →
      Impact.resolve p (some q.nextInstance) cs (playImpacts c) ready = .ok a →
      PlayOutcome g p q c cs a

theorem playCard_cases {c : Card} (h : g.playCard p c cs = .ok a) :
    ∃ q, g.player? p = some q ∧ g.PlayOutcome p q c cs a := by
  obtain ⟨q, hq, h⟩ := bind_eq_ok.1 h
  obtain ⟨refusal, hr, h⟩ := bind_eq_ok.1 h
  refine ⟨q, player_eq_ok.1 hq, ?_⟩
  cases refusal with
  | some r =>
    cases h
    exact .refused r
  | none =>
    obtain ⟨payment, paid, h⟩ := bind_eq_ok.1 h
    cases payment with
    | none =>
      cases h
      exact .refused _
    | some payment =>
      obtain ⟨entered, he, h⟩ := bind_eq_ok.1 h
      obtain ⟨ready, reacted, h⟩ := bind_eq_ok.1 h
      exact .resolved hr paid he reacted h

/-! ## Using a card action -/

/-- What comes of a card that is revealed: there is none, or the top card is drawn and laid down, and the
impacts are resolved if it has the tag. -/
inductive RevealOutcome (p : PlayerId) (i : Int) (payment : Pool) (action : Action) (cs : List Choice)
    (started : Progress) : Attempt → Prop where
  | refused (r : Refusal) : RevealOutcome p i payment action cs started (.unplayable r)
  | complete {card : Card} {drawn shown : Progress} :
      started.emit (paymentOps p payment ++ [.drawCards p 1]) = .ok drawn →
      drawn.emit [.discardCards p [card]] = .ok shown →
      RevealOutcome p i payment action cs started (.complete shown.operations shown.game)
  | resolved {card : Card} {drawn shown : Progress} {a : Attempt} :
      started.emit (paymentOps p payment ++ [.drawCards p 1]) = .ok drawn →
      drawn.emit [.discardCards p [card]] = .ok shown →
      Impact.resolve p (some i) cs action.impacts shown = .ok a →
      RevealOutcome p i payment action cs started a

theorem revealCard_cases {i : Int} {payment : Pool} {action : Action}
    (h : revealCard p i payment action cs started = .ok a) :
    RevealOutcome p i payment action cs started a := by
  unfold revealCard at h
  split at h
  · cases h
    exact .refused _
  · obtain ⟨drawn, hd, h⟩ := bind_eq_ok.1 h
    obtain ⟨q, -, h⟩ := bind_eq_ok.1 h
    split at h
    · cases h
    · obtain ⟨shown, hs, h⟩ := bind_eq_ok.1 h
      split at h
      · cases h
      · split at h
        · exact .resolved hd hs h
        · cases h
          exact .complete hd hs

/-- What comes of an action of the card `d` that `q`, who is `p`, uses: by its type it is paid for in one
way or another, or refused if it cannot be. -/
inductive UseOutcome (p : PlayerId) (q : Player) (d : PlayedCard) (i : Int) (action : Action)
    (cs : List Choice) (started : Progress) : Attempt → Prop where
  | refused (r : Refusal) : UseOutcome p q d i action cs started (.unplayable r)
  | free {a : Attempt} : action.type = .causeFreeImpact →
      payAndResolve p i [] action.impacts cs started = .ok a →
      UseOutcome p q d i action cs started a
  | paid {cost : Cost} {payment : Pool} {a : Attempt} : action.type = .spendResource →
      action.cost = some cost → q.paymentFor cost = .ok (some payment) →
      payAndResolve p i (paymentOps p payment) action.impacts cs started = .ok a →
      UseOutcome p q d i action cs started a
  | cardResource {a : Attempt} : action.type = .spendSameCardResource →
      action.count ≤ q.held d.instanceId action.cardResource →
      payAndResolve p i [.changeCardResource p d.instanceId action.cardResource (-action.count)]
        action.impacts cs started = .ok a →
      UseOutcome p q d i action cs started a
  | production {a : Attempt} : action.type = .spendProduction →
      q.canReduceProduction action.resource action.count = true →
      payAndResolve p i [.changeProduction p action.resource (-action.count)] action.impacts cs
        started = .ok a →
      UseOutcome p q d i action cs started a
  | revealed {cost : Cost} {payment : Pool} {a : Attempt} : action.type = .revealCardForTag →
      action.cost = some cost → q.paymentFor cost = .ok (some payment) →
      RevealOutcome p i payment action cs started a →
      UseOutcome p q d i action cs started a

theorem useAction_cases {d : PlayedCard} {i : Int} {action : Action}
    (h : useAction p d i action cs started = .ok a) :
    ∃ q, started.game.player? p = some q ∧ UseOutcome p q d i action cs started a := by
  obtain ⟨q, hq, h⟩ := bind_eq_ok.1 h
  refine ⟨q, player_eq_ok.1 hq, ?_⟩
  cases type : action.type with
  | causeFreeImpact =>
    rw [type] at h
    exact .free type h
  | spendResource =>
    rw [type] at h
    obtain ⟨cost, hc, h⟩ := bind_eq_ok.1 h
    obtain ⟨payment, paid, h⟩ := bind_eq_ok.1 h
    cases payment with
    | none =>
      cases h
      exact .refused _
    | some payment => exact .paid type (Impact.need_eq_ok.1 hc) paid h
  | spendSameCardResource =>
    rw [type] at h
    simp only at h
    split at h
    · obtain ⟨kind, -, h⟩ := bind_eq_ok.1 h
      cases h
      exact .refused _
    next enough => exact .cardResource type (Int.not_lt.1 enough) h
  | spendProduction =>
    rw [type] at h
    simp only at h
    split at h
    · obtain ⟨r, -, h⟩ := bind_eq_ok.1 h
      cases h
      exact .refused _
    next able => exact .production type (by simpa using able) h
  | revealCardForTag =>
    rw [type] at h
    obtain ⟨cost, hc, h⟩ := bind_eq_ok.1 h
    obtain ⟨payment, paid, h⟩ := bind_eq_ok.1 h
    cases payment with
    | none =>
      cases h
      exact .refused _
    | some payment => exact .revealed type (Impact.need_eq_ok.1 hc) paid (revealCard_cases h)

theorem mem_actions_of_actionAt? {c : Card} {n : Int} {action : Action}
    (h : actionAt? c n = some action) : action ∈ c.actions := by
  unfold actionAt? at h
  split at h
  · exact List.mem_of_getElem? h
  · cases h

/-- What comes of an action that `q`, who is `p`, asks for: it is refused, or the card is in play and
untapped, it is tapped, and the action is used. -/
inductive ActionOutcome (g : Game) (p : PlayerId) (q : Player) (s : Option Int) (n : Int)
    (cs : List Choice) : Attempt → Prop where
  | refused (r : Refusal) : ActionOutcome g p q s n cs (.unplayable r)
  | used {i : Int} {d : PlayedCard} {action : Action} {marked : Progress} {q' : Player} {a : Attempt} :
      s = some i → q.played? i = some d → q.tapped.contains i = false →
      actionAt? d.card n = some action →
      ({ game := g } : Progress).emit [.markCardActionUsed p i] = .ok marked →
      marked.game.player? p = some q' → UseOutcome p q' d i action cs marked a →
      ActionOutcome g p q s n cs a

theorem performAction_cases {s : Option Int} {n : Int} (h : g.performAction p s n cs = .ok a) :
    ∃ q, g.player? p = some q ∧ g.ActionOutcome p q s n cs a := by
  obtain ⟨q, hq, h⟩ := bind_eq_ok.1 h
  refine ⟨q, player_eq_ok.1 hq, ?_⟩
  split at h
  · cases h
    exact .refused _
  next i d found =>
    obtain ⟨i', named, found⟩ := Option.bind_eq_some_iff.1 found
    obtain ⟨d', hd, ⟨⟩⟩ := Option.map_eq_some_iff.1 found
    split at h
    · cases h
      exact .refused _
    · split at h
      · cases h
        exact .refused _
      next untapped =>
        split at h
        · cases h
          exact .refused _
        next action there =>
          obtain ⟨marked, hm, h⟩ := bind_eq_ok.1 h
          obtain ⟨q', hq', outcome⟩ := useAction_cases h
          exact .used named hd (by simpa using untapped) there hm hq' outcome

/-! ## Standard projects -/

/-- What comes of a project of `p`: it is refused, or it is paid for and its impacts are resolved. -/
inductive ProjectOutcome (g : Game) (p : PlayerId) (project : StandardProject) (cs : List Choice) :
    Attempt → Prop where
  | refused (r : Refusal) : ProjectOutcome g p project cs (.unplayable r)
  | resolved {q : Player} {payment : Pool} {paid : Progress} {a : Attempt} :
      g.projectRefusal? project = none → g.player? p = some q →
      q.paymentFor project.cost = .ok (some payment) →
      ({ game := g } : Progress).emit (paymentOps p payment) = .ok paid →
      Impact.resolve p none cs project.impacts paid = .ok a →
      ProjectOutcome g p project cs a

theorem performProject_cases {project : StandardProject} (h : g.performProject p project cs = .ok a) :
    g.ProjectOutcome p project cs a := by
  unfold performProject at h
  split at h
  · cases h
    exact .refused _
  next sensible =>
    obtain ⟨q, hq, h⟩ := bind_eq_ok.1 h
    obtain ⟨payment, affordable, h⟩ := bind_eq_ok.1 h
    cases payment with
    | none =>
      cases h
      exact .refused _
    | some payment =>
      obtain ⟨paid, hp, h⟩ := bind_eq_ok.1 h
      exact .resolved sensible (player_eq_ok.1 hq) affordable hp h

/-! ## Milestones and awards -/

/-- What comes of a milestone or an award: it is refused for a reason, or some operations complete it. -/
inductive HonorOutcome (g : Game) (reason : Option Refusal) (ops : List Operation) : Attempt → Prop where
  | refused (r : Refusal) : HonorOutcome g reason ops (.unplayable r)
  | complete {done : Progress} : reason = none → ({ game := g } : Progress).emit ops = .ok done →
      HonorOutcome g reason ops (.complete done.operations done.game)

theorem claimMilestoneTurn_cases {name : Option String} (h : g.claimMilestoneTurn p name = .ok a) :
    ∃ q, g.player? p = some q ∧ g.HonorOutcome (g.milestoneRefusal? q name)
      [.changeResources p (some .megacredits) (-Milestone.cost), .claimMilestone p (name.getD "")] a := by
  obtain ⟨q, hq, h⟩ := bind_eq_ok.1 h
  refine ⟨q, player_eq_ok.1 hq, ?_⟩
  split at h
  · cases h
    exact .refused _
  next free =>
    obtain ⟨done, hd, h⟩ := bind_eq_ok.1 h
    cases h
    exact .complete free hd

theorem fundAwardTurn_cases {name : Option String} (h : g.fundAwardTurn p name = .ok a) :
    ∃ q, g.player? p = some q ∧ g.HonorOutcome (g.awardRefusal? q name)
      [.changeResources p (some .megacredits) (-(Award.costs.getD g.funded.size 0)),
        .fundAward p (name.getD "")] a := by
  obtain ⟨q, hq, h⟩ := bind_eq_ok.1 h
  refine ⟨q, player_eq_ok.1 hq, ?_⟩
  split at h
  · cases h
    exact .refused _
  next free =>
    obtain ⟨done, hd, h⟩ := bind_eq_ok.1 h
    cases h
    exact .complete free hd

/-! ## Any turn -/

/-- What comes of a turn of `p`, by the type of the action: what comes of what it names. -/
inductive TurnOutcome (g : Game) (p : PlayerId) (action : TurnAction) (cs : List Choice) :
    Attempt → Prop where
  | card {c : Card} {a : Attempt} : action.type = .playCard → action.card = some c →
      g.playCard p c cs = .ok a → TurnOutcome g p action cs a
  | inPlay {a : Attempt} : action.type = .performAction →
      g.performAction p action.instanceId action.index cs = .ok a → TurnOutcome g p action cs a
  | project {project : StandardProject} {a : Attempt} : action.type = .standardProject →
      action.project = some project → g.performProject p project cs = .ok a →
      TurnOutcome g p action cs a
  | milestone {a : Attempt} : action.type = .claimMilestone →
      g.claimMilestoneTurn p action.name = .ok a → TurnOutcome g p action cs a
  | award {a : Attempt} : action.type = .fundAward → g.fundAwardTurn p action.name = .ok a →
      TurnOutcome g p action cs a
  | pass : action.type = .pass → TurnOutcome g p action cs (.complete [] g)

theorem takeTurn_cases {action : TurnAction} (h : g.takeTurn p action cs = .ok a) :
    g.TurnOutcome p action cs a := by
  unfold takeTurn at h
  split at h
  next type =>
    split at h
    next c hc => exact .card type hc h
    next =>
      obtain ⟨q, -, h⟩ := bind_eq_ok.1 h
      cases h
  next type => exact .inPlay type h
  next type =>
    split at h
    next project hp => exact .project type hp h
    next => cases h
  next type => exact .milestone type h
  next type => exact .award type h
  next type =>
    cases h
    exact .pass type

end Game

end Terraforming
