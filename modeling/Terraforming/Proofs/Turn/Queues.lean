import Terraforming.Proofs.Game.Commands
import Terraforming.Turn.Play

/-!
# What a turn resolves

The choices have no part in what a turn asks and pays first.  So a turn of any kind either ends before
its impacts, in the same way with any choices, or it is the resolution of one queue of impacts from one
start, and the choices are for that resolution alone.

* `Game.turnImpacts` — the queue of a turn, read off the action and the cards in play;
* `ComesDown` — a move has this shape;
* `Game.takeTurn_comesDown` — every turn has it.
-/

namespace Terraforming

/-- A move of `p` ends without a decision, whatever is chosen, or it comes down to resolving `queue`. -/
inductive ComesDown (p : PlayerId) (queue : List Impact) :
    (List Choice → Except Fault Attempt) → Prop where
  | refused (r : Refusal) : ComesDown p queue fun _ => .ok (.unplayable r)
  | completed (ops : List Operation) (g : Game) : ComesDown p queue fun _ => .ok (.complete ops g)
  | failed (f : Fault) : ComesDown p queue fun _ => .error f
  | resolved (source : Option Int) (start : Progress) :
      ComesDown p queue fun cs => Impact.resolve p source cs queue start

/-- What comes first may fail, and the move goes on with what it gives. -/
theorem ComesDown.bind {p : PlayerId} {queue : List Impact} {α : Type} {x : Except Fault α}
    {move : α → List Choice → Except Fault Attempt}
    (h : ∀ v, x = .ok v → ComesDown p queue (move v)) :
    ComesDown p queue fun cs => x >>= fun v => move v cs := by
  cases x with
  | error f => exact .failed f
  | ok v => exact h v rfl

namespace Game

variable {p : PlayerId}

/-! ## Cards and projects -/

theorem playCard_comesDown (g : Game) (c : Card) :
    ComesDown p (playImpacts c) fun cs => g.playCard p c cs := by
  unfold playCard
  refine .bind fun q _ => .bind fun refusal _ => ?_
  cases refusal with
  | some r => exact .refused r
  | none =>
    refine .bind fun payment _ => ?_
    cases payment with
    | none => exact .refused _
    | some payment => exact .bind fun entered _ => .bind fun ready _ => .resolved _ ready

theorem performProject_comesDown (g : Game) (project : StandardProject) :
    ComesDown p project.impacts fun cs => g.performProject p project cs := by
  unfold performProject
  cases g.projectRefusal? project with
  | some r => exact .refused r
  | none =>
    refine .bind fun q _ => .bind fun payment _ => ?_
    cases payment with
    | none => exact .refused _
    | some payment => exact .bind fun paid _ => .resolved _ paid

/-! ## Actions -/

theorem payAndResolve_comesDown (i : Int) (ops : List Operation) (impacts : List Impact)
    (started : Progress) :
    ComesDown p impacts fun cs => payAndResolve p i ops impacts cs started :=
  .bind fun paid _ => .resolved _ paid

theorem revealCard_comesDown (i : Int) (payment : Pool) (action : Action) (started : Progress) :
    ComesDown p action.impacts fun cs => revealCard p i payment action cs started := by
  unfold revealCard
  cases started.game.deck.isEmpty && started.game.discard.isEmpty with
  | true => exact .refused _
  | false =>
    refine .bind fun drawn _ => .bind fun q _ => ?_
    cases q.hand.getLast? with
    | none => exact .failed _
    | some card =>
      refine .bind fun shown _ => ?_
      cases action.tag with
      | none => exact .failed _
      | some tag =>
        cases ht : card.hasTag tag with
        | true => simpa only [ht] using .resolved _ shown
        | false => simpa only [ht] using .completed _ _

theorem useAction_comesDown (c : PlayedCard) (i : Int) (action : Action) (started : Progress) :
    ComesDown p action.impacts fun cs => useAction p c i action cs started := by
  unfold useAction
  refine .bind fun q _ => ?_
  cases action.type with
  | causeFreeImpact => exact payAndResolve_comesDown _ _ _ _
  | spendResource =>
    refine .bind fun cost _ => .bind fun payment _ => ?_
    cases payment with
    | none => exact .refused _
    | some payment => exact payAndResolve_comesDown _ _ _ _
  | spendSameCardResource =>
    by_cases few : q.held c.instanceId action.cardResource < action.count
    · simp only [few, if_true]
      exact .bind fun kind _ => .refused _
    · simp only [few, if_false]
      exact payAndResolve_comesDown _ _ _ _
  | spendProduction =>
    cases q.canReduceProduction action.resource action.count with
    | true => exact payAndResolve_comesDown _ _ _ _
    | false => exact .bind fun r _ => .refused _
  | revealCardForTag =>
    refine .bind fun cost _ => .bind fun payment _ => ?_
    cases payment with
    | none => exact .refused _
    | some payment => exact revealCard_comesDown _ _ _ _

/-- The impacts of an action of a card that `p` has in play. -/
def actionImpacts (g : Game) (p : PlayerId) (instanceId : Option Int) (index : Int) : List Impact :=
  let inPlay := (g.player? p).bind fun q => instanceId.bind q.played?
  (inPlay.bind fun d => actionAt? d.card index).elim [] Action.impacts

theorem performAction_comesDown (g : Game) (s : Option Int) (n : Int) :
    ComesDown p (g.actionImpacts p s n) fun cs => g.performAction p s n cs := by
  unfold performAction
  refine .bind fun q hq => ?_
  cases found : s.bind fun i => (q.played? i).map (i, ·) with
  | none => exact .refused _
  | some e =>
    obtain ⟨i, named, there⟩ := Option.bind_eq_some_iff.1 found
    obtain ⟨d, hd, rfl⟩ := Option.map_eq_some_iff.1 there
    simp only
    cases d.card.actions.isEmpty with
    | true => exact .refused _
    | false =>
      cases q.tapped.contains i with
      | true => exact .refused _
      | false =>
        cases at_ : actionAt? d.card n with
        | none => exact .refused _
        | some action =>
          have queue : g.actionImpacts p s n = action.impacts := by
            simp only [actionImpacts, player_eq_ok.1 hq, named, Option.bind_some, hd, at_,
              Option.elim_some]
          rw [queue]
          exact .bind fun started _ => useAction_comesDown _ _ _ started

/-! ## Turns -/

theorem completeWith_comesDown (g : Game) (queue : List Impact) (ops : List Operation) :
    ComesDown p queue fun _ => g.completeWith ops :=
  .bind fun done _ => .completed done.operations done.game

theorem claimMilestoneTurn_comesDown (g : Game) (queue : List Impact) (name : Option String) :
    ComesDown p queue fun _ => g.claimMilestoneTurn p name := by
  refine .bind fun q _ => ?_
  cases g.milestoneRefusal? q name with
  | some r => exact .refused r
  | none => exact completeWith_comesDown g queue _

theorem fundAwardTurn_comesDown (g : Game) (queue : List Impact) (name : Option String) :
    ComesDown p queue fun _ => g.fundAwardTurn p name := by
  refine .bind fun q _ => ?_
  cases g.awardRefusal? q name with
  | some r => exact .refused r
  | none => exact completeWith_comesDown g queue _

/-- The impacts that a turn resolves.  Those of an action are printed on a card in play; milestones,
awards and passing have none. -/
def turnImpacts (g : Game) (p : PlayerId) (action : TurnAction) : List Impact :=
  match action.type with
  | .playCard => action.card.elim [] playImpacts
  | .performAction => g.actionImpacts p action.instanceId action.index
  | .standardProject => action.project.elim [] StandardProject.impacts
  | .claimMilestone | .fundAward | .pass => []

/-- **Every turn** comes down to resolving its impacts. -/
theorem takeTurn_comesDown (g : Game) (action : TurnAction) :
    ComesDown p (g.turnImpacts p action) fun cs => g.takeTurn p action cs := by
  unfold takeTurn turnImpacts
  cases action.type with
  | playCard =>
    cases action.card with
    | some c => exact playCard_comesDown g c
    | none => exact .bind fun q _ => .failed _
  | performAction => exact performAction_comesDown g _ _
  | standardProject =>
    cases action.project with
    | some project => exact performProject_comesDown g project
    | none => exact .failed _
  | claimMilestone => exact claimMilestoneTurn_comesDown g _ _
  | fundAward => exact fundAwardTurn_comesDown g _ _
  | pass => exact .completed [] g

end Game

end Terraforming
