import Terraforming.Turn.Action
import Terraforming.Turn.Resolve

/-!
# Taking a turn

Each kind of turn action first asks whether the rules permit it, then pays, and then resolves the
impacts that follow.  An attempt never changes the game it starts from; it answers with the game it
leads to.
-/

namespace Terraforming

/-- The operations that pay. -/
def paymentOps (p : PlayerId) (payment : Pool) : List Operation :=
  (Resource.all.filter fun r => payment.amount r ≠ 0).map fun r =>
    .changeResources p (some r) (-payment.amount r)

namespace Game

/-! ## Playing a card -/

/-- The loss of production that a player cannot bear, of those that a card brings. -/
def unbearableLoss? (q : Player) (c : Card) : Option (Resource × Int) :=
  c.ownProduction.entries.find? fun e => e.2 < 0 && !q.canReduceProduction (some e.1) (-e.2)

/-- Why a player may not play a card, if that is so. -/
def playRefusal? (g : Game) (q : Player) (c : Card) : Except Fault (Option Refusal) := do
  if !q.holds c then return some (.cardNotInHand c.name)
  let reasons ← q.unmetRequirements g.board c
  if !reasons.isEmpty then return some (.unmet reasons)
  return (unbearableLoss? q c).map fun e => .productionTooLow e.1 (-e.2)

/-- The operations that bring a card into play, from the payment to the change of the owner's
production. -/
def entryOps (p : PlayerId) (q : Player) (c : Card) (payment : Pool) : List Operation :=
  paymentOps p payment ++
    [.putCardIntoPlay p c q.nextInstance] ++
    (if q.nextCardEffects.isEmpty then [] else [.consumeNextCardEffects p]) ++
    c.effects.map (.addEffect p q.nextInstance ·) ++
    (Resource.all.filter fun r => c.ownChange r ≠ 0).map fun r =>
      .changeProduction p (some r) (c.ownChange r)

/-- The impacts of playing a card: those printed, and what it takes from others' production. -/
def playImpacts (c : Card) : List Impact :=
  c.impacts ++ (Resource.all.filter fun r => c.anyChange r < 0).map fun r =>
    .reduceAnyProduction r (-c.anyChange r)

def playCard (g : Game) (p : PlayerId) (c : Card) (choices : List Choice := []) :
    Except Fault Attempt := do
  let q ← g.player p
  match ← g.playRefusal? q c with
  | some r => return .unplayable r
  | none =>
    match ← q.paymentFor (q.effectiveCost c) with
    | none => return .unplayable (.cannotPay (q.effectiveCost c))
    | some payment =>
      let entered ← ({ game := g } : Progress).emit (entryOps p q c payment)
      let ready ← entered.emit (entered.game.reactionsToCard p c)
      Impact.resolve p (some q.nextInstance) choices (playImpacts c) ready

/-! ## Using a card action -/

/-- Pay for an action and resolve its impacts. -/
def payAndResolve (p : PlayerId) (instanceId : Int) (ops : List Operation) (impacts : List Impact)
    (choices : List Choice) (started : Progress) : Except Fault Attempt := do
  Impact.resolve p (some instanceId) choices impacts (← started.emit ops)

/-- Reveal the top card of the deck; the impacts happen if it has the tag of the action. -/
def revealCard (p : PlayerId) (instanceId : Int) (payment : Pool) (a : Action)
    (choices : List Choice) (started : Progress) : Except Fault Attempt := do
  if started.game.deck.isEmpty && started.game.discard.isEmpty then
    return .unplayable .nothingToReveal
  let drawn ← started.emit (paymentOps p payment ++ [.drawCards p 1])
  match (← drawn.game.player p).hand.getLast? with
  | none => throw .unset
  | some card =>
    let shown ← drawn.emit [.discardCards p [card]]
    match a.tag with
    | none => throw .unset
    | some tag =>
      if card.hasTag tag then Impact.resolve p (some instanceId) choices a.impacts shown
      else return .complete shown.operations shown.game

/-- Carry out an action of a card that was just marked as used. -/
def useAction (p : PlayerId) (c : PlayedCard) (instanceId : Int) (a : Action)
    (choices : List Choice) (started : Progress) : Except Fault Attempt := do
  let q ← started.game.player p
  match a.type with
  | .causeFreeImpact => payAndResolve p instanceId [] a.impacts choices started
  | .spendResource =>
    let cost ← Impact.need a.cost
    match ← q.paymentFor cost with
    | none => return .unplayable (.cannotPay cost)
    | some payment => payAndResolve p instanceId (paymentOps p payment) a.impacts choices started
  | .spendSameCardResource =>
    let held := q.held c.instanceId a.cardResource
    if held < a.count then
      return .unplayable
        (.holdsTooFew c.card.name held (← Impact.need a.cardResource) a.count)
    payAndResolve p instanceId [.changeCardResource p c.instanceId a.cardResource (-a.count)]
      a.impacts choices started
  | .spendProduction =>
    if !q.canReduceProduction a.resource a.count then
      return .unplayable (.cannotSpendProduction (← Impact.need a.resource))
    payAndResolve p instanceId [.changeProduction p a.resource (-a.count)] a.impacts choices
      started
  | .revealCardForTag =>
    let cost ← Impact.need a.cost
    match ← q.paymentFor cost with
    | none => return .unplayable (.cannotPay cost)
    | some payment => revealCard p instanceId payment a choices started

/-- The action of a number, counted from nothing. -/
def actionAt? (c : Card) (index : Int) : Option Action :=
  if 0 ≤ index then c.actions[index.toNat]? else none

def performAction (g : Game) (p : PlayerId) (instanceId : Option Int) (index : Int := 0)
    (choices : List Choice := []) : Except Fault Attempt := do
  let q ← g.player p
  match instanceId.bind fun i => (q.played? i).map (i, ·) with
  | none => return .unplayable (.cardNotInPlay instanceId)
  | some (i, c) =>
    if c.card.actions.isEmpty then return .unplayable (.cardWithoutActions c.card.name)
    if q.tapped.contains i then return .unplayable (.actionAlreadyUsed c.card.name)
    match actionAt? c.card index with
    | none => return .unplayable (.noSuchAction c.card.name index)
    | some a =>
      useAction p c i a choices (← ({ game := g } : Progress).emit [.markCardActionUsed p i])

/-! ## Standard projects -/

/-- Whether there is nothing left for a project to do. -/
def projectRefusal? (g : Game) (project : StandardProject) : Option Refusal :=
  if project.needsColdPlanet && g.board.temperatureMaxed then some .temperatureAtMaximum
  else if project = .aquifer && g.board.oceansMaxed then some .oceansExhausted
  else none

def performProject (g : Game) (p : PlayerId) (project : StandardProject)
    (choices : List Choice := []) : Except Fault Attempt := do
  match g.projectRefusal? project with
  | some r => return .unplayable r
  | none =>
    match ← (← g.player p).paymentFor project.cost with
    | none => return .unplayable (.cannotPay project.cost)
    | some payment =>
      let paid ← ({ game := g } : Progress).emit (paymentOps p payment)
      Impact.resolve p none choices project.impacts paid

/-! ## Milestones and awards -/

/-- Why a player may not claim a milestone, if that is so. -/
def milestoneRefusal? (g : Game) (q : Player) (name : Option String) : Option Refusal :=
  match name with
  | none => some (.unknownMilestone none)
  | some n =>
    match Vocabulary.ofWord? (α := Milestone) n with
    | none => some (.unknownMilestone n)
    | some m =>
      if g.claimed.contains n then some (.milestoneClaimed n)
      else if Milestone.limit ≤ g.claimed.size then some .milestonesExhausted
      else if !m.isReached q g.board then some (.milestoneNotReached m)
      else if q.balance (some .megacredits) < Milestone.cost then some .milestoneTooExpensive
      else none

/-- Why a player may not fund an award, if that is so. -/
def awardRefusal? (g : Game) (q : Player) (name : Option String) : Option Refusal :=
  match name with
  | none => some (.unknownAward none)
  | some n =>
    if (Vocabulary.ofWord? (α := Award) n).isNone then some (.unknownAward n)
    else if g.funded.contains n then some (.awardFunded n)
    else match Award.costs[g.funded.size]? with
      | none => some .awardsExhausted
      | some cost =>
        if q.balance (some .megacredits) < cost then some (.awardTooExpensive cost) else none

/-- The attempt that some operations complete at once. -/
def completeWith (g : Game) (ops : List Operation) : Except Fault Attempt := do
  let done ← ({ game := g } : Progress).emit ops
  return .complete done.operations done.game

def claimMilestoneTurn (g : Game) (p : PlayerId) (name : Option String) :
    Except Fault Attempt := do
  match g.milestoneRefusal? (← g.player p) name with
  | some r => return .unplayable r
  | none =>
    g.completeWith [.changeResources p (some .megacredits) (-Milestone.cost),
      .claimMilestone p (name.getD "")]

def fundAwardTurn (g : Game) (p : PlayerId) (name : Option String) : Except Fault Attempt := do
  match g.awardRefusal? (← g.player p) name with
  | some r => return .unplayable r
  | none =>
    g.completeWith [.changeResources p (some .megacredits) (-(Award.costs.getD g.funded.size 0)),
      .fundAward p (name.getD "")]

/-! ## Any turn action -/

/-- Take a turn. -/
def takeTurn (g : Game) (p : PlayerId) (a : TurnAction) (choices : List Choice := []) :
    Except Fault Attempt :=
  match a.type with
  | .playCard => do
    match a.card with
    | some c => g.playCard p c choices
    | none => do
      let _ ← g.player p
      throw .unset
  | .performAction => g.performAction p a.instanceId a.index choices
  | .standardProject =>
    match a.project with
    | some project => g.performProject p project choices
    | none => .error .unlisted
  | .claimMilestone => g.claimMilestoneTurn p a.name
  | .fundAward => g.fundAwardTurn p a.name
  | .pass => .ok (.complete [] g)

end Game

end Terraforming
