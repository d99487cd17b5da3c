import Terraforming.Board.Placement
import Terraforming.Game.Basic
import Terraforming.Random.Generator

/-!
# Applying operations

Every change of a game goes through `Game.execute`, which either accepts an operation and appends
it to the log, or refuses it.  A refused operation leaves the game as it was, with one exception: a
discard of several cards stops at the first card that is not in the hand, and the cards before it
have moved.
-/

namespace Terraforming

/-- What became of a change: the game after it, or why it was refused and the game that the refusal
leaves. -/
inductive Outcome where
  | accepted (g : Game)
  | refused (f : Fault) (left : Game)

namespace Outcome

/-- The game afterwards, whatever became of the change. -/
def game : Outcome → Game
  | accepted g => g
  | refused _ g => g

/-- Go on if the change was accepted. -/
def andThen : Outcome → (Game → Outcome) → Outcome
  | accepted g, f => f g
  | refused e g, _ => refused e g

/-- The game, or just the fault. -/
def toExcept : Outcome → Except Fault Game
  | accepted g => .ok g
  | refused f _ => .error f

end Outcome

namespace Game

/-! ## Cards -/

/-- The game with the discard pile shuffled under the deck. -/
def reshuffle (g : Game) : Game :=
  let generator := Generator.ofText (toString g.seed ++ "/" ++ toString g.reshuffles)
  { g with
    deck := g.deck ++ generator.shuffle g.discard
    discard := []
    reshuffles := g.reshuffles + 1 }

/-- The game with the first `n` cards of the deck in the hand of `p`. -/
def deal (g : Game) (p : PlayerId) (q : Player) (n : Nat) : Game :=
  { g with deck := g.deck.drop n }.withPlayer p { q with hand := q.hand ++ g.deck.take n }

def draw (g : Game) (p : PlayerId) (count : Int) : Except Fault Game := do
  let q ← g.player p
  if count < 0 then throw (.violation (.negativeDraw count))
  if count ≤ g.deck.length then return g.deal p q count.toNat
  if count ≤ g.deck.length + g.discard.length then return g.reshuffle.deal p q count.toNat
  throw (.violation (.tooFewCards count g.deck.length g.discard.length))

/-- Move cards from the hand of `p` to the discard pile, until one is not there. -/
def discardAll (p : PlayerId) : List Card → Player → Game → Outcome
  | [], _, g => .accepted g
  | c :: cs, q, g =>
    if q.holds c then
      let q := { q with hand := q.hand.erase c }
      discardAll p cs q ({ g with discard := g.discard ++ [c] }.withPlayer p q)
    else .refused (.violation (.notInHand c.name p)) g

def putIntoPlay (g : Game) (p : PlayerId) (c : Card) (instanceId : Int) : Except Fault Game := do
  let q ← g.player p
  if !q.holds c then throw (.violation (.notInHand c.name p))
  if instanceId < q.nextInstance then throw (.violation (.instanceInUse instanceId))
  return g.withPlayer p { q with
    hand := q.hand.erase c
    played := q.played ++ [⟨instanceId, c⟩]
    nextInstance := instanceId + 1 }

/-! ## Economy -/

def changeResources (g : Game) (p : PlayerId) (r : Resource) (delta : Int) :
    Except Fault Game := do
  let q ← g.player p
  let balance := q.balance (some r) + delta
  if balance < 0 then throw (.violation (.negativeBalance p balance r))
  return g.withPlayer p { q with resources := q.resources.insert r balance }

def changeProduction (g : Game) (p : PlayerId) (r : Resource) (delta : Int) :
    Except Fault Game := do
  let q ← g.player p
  let level := q.productionOf (some r) + delta
  if level < q.productionFloor (some r) then
    throw (.violation (.belowProductionFloor p r level))
  return g.withPlayer p { q with production := q.production.insert r level }

def changeCardResource (g : Game) (p : PlayerId) (instanceId : Int) (kind : CardResource)
    (delta : Int) : Except Fault Game := do
  let q ← g.player p
  match q.played? instanceId with
  | none => throw (.violation (.noSuchCard p instanceId))
  | some c =>
    if c.card.supportedResource? ≠ some kind then
      throw (.violation (.cannotHold c.card.name kind))
    let amount := q.held instanceId (some kind) + delta
    if amount < 0 then throw (.violation (.negativeCardResource c.card.name amount kind))
    return g.withPlayer p
      { q with cardResources := q.cardResources.insert ⟨instanceId, kind⟩ amount }

def purchaseCards (g : Game) (p : PlayerId) (cards : List Card) : Except Fault Game := do
  match ← (← g.player p).purchase cards with
  | some q => return g.withPlayer p q
  | none =>
    throw (.violation (.cannotPayForCards p (cardPrice * cards.length) cards.length))

/-! ## Effects and card actions -/

def addEffect (g : Game) (p : PlayerId) (source : Option Int) (e : Effect) :
    Except Fault Game := do
  let q ← g.player p
  match source.filter fun i => (q.played? i).isSome with
  | none => throw (.violation (.effectSourceMissing source))
  | some i => return g.withPlayer p { q with effects := q.effects ++ [⟨i, e⟩] }

def markCardActionUsed (g : Game) (p : PlayerId) (instanceId : Int) : Except Fault Game := do
  let q ← g.player p
  match (q.played? instanceId).filter fun c => !c.card.actions.isEmpty with
  | none => throw (.violation (.noActions instanceId))
  | some c =>
    if q.tapped.contains instanceId then throw (.violation (.actionUsed c.card.name))
    return g.withPlayer p { q with tapped := q.tapped.add instanceId }

def resetCardActions (g : Game) : Game :=
  { g with players := g.players.mapValues fun q => { q with tapped := ∅ } }

/-! ## Milestones and awards -/

def claimMilestone (g : Game) (p : PlayerId) (name : String) : Except Fault Game := do
  let _ ← g.player p
  if (Vocabulary.ofWord? (α := Milestone) name).isNone then
    throw (.violation (.unknownMilestone name))
  if g.claimed.contains name then throw (.violation (.milestoneClaimed name))
  if Milestone.limit ≤ g.claimed.size then throw (.violation .milestonesExhausted)
  return { g with claimed := g.claimed.set name p }

def fundAward (g : Game) (p : PlayerId) (name : String) : Except Fault Game := do
  let _ ← g.player p
  if (Vocabulary.ofWord? (α := Award) name).isNone then throw (.violation (.unknownAward name))
  if g.funded.contains name then throw (.violation (.awardFunded name))
  if Award.limit ≤ g.funded.size then throw (.violation .awardsExhausted)
  return { g with funded := g.funded.set name p }

/-! ## Commands and operations -/

/-- The game with a player changed, if there is one. -/
def update (g : Game) (p : PlayerId) (f : Player → Player) : Except Fault Game :=
  (g.player p).map fun q => g.withPlayer p (f q)

/-- Carry out a command that either happens or does not. -/
def run (g : Game) : Command → Except Fault Game
  | .changeResources p r delta => g.changeResources p r delta
  | .changeProduction p r delta => g.changeProduction p r delta
  | .changeCardResource p i kind delta => g.changeCardResource p i kind delta
  | .drawCards p count => g.draw p count
  | .discardCards p cards => do (discardAll p cards (← g.player p) g).toExcept
  | .putCardIntoPlay p c i => g.putIntoPlay p c i
  | .placeTile l t => (g.board.place l t).map fun b => { g with board := b }
  | .raiseTemperature => g.board.raiseTemperature.map fun b => { g with board := b }
  | .raiseOxygen => g.board.raiseOxygen.map fun b => { g with board := b }
  | .raiseTerraformRating p n => g.update p fun q => { q with rating := q.rating + n }
  | .addEffect p source e => g.addEffect p source e
  | .addNextCardEffect p e =>
    g.update p fun q => { q with nextCardEffects := q.nextCardEffects ++ [e] }
  | .consumeNextCardEffects p => g.update p fun q => { q with nextCardEffects := [] }
  | .markCardActionUsed p i => g.markCardActionUsed p i
  | .resetCardActions => .ok g.resetCardActions
  | .purchaseCards p cards => g.purchaseCards p cards
  | .produce p => do
    match (← g.player p).produce with
    | .ok q => return g.withPlayer p q
    | .error v => throw (.violation v)
  | .advanceGeneration => .ok { g with generation := g.generation + 1 }
  | .claimMilestone p name => g.claimMilestone p name
  | .fundAward p name => g.fundAward p name

/-- The game that a refused command leaves. -/
def leftBy (g : Game) : Command → Game
  | .discardCards p cards =>
    match g.player? p with
    | some q => (discardAll p cards q g).game
    | none => g
  | _ => g

/-- Apply one operation. -/
def execute (g : Game) (o : Operation) : Outcome :=
  match o.command? with
  | .error v => .refused (.violation v) g
  | .ok c =>
    match g.run c with
    | .ok g' => .accepted { g' with log := g'.log ++ [o] }
    | .error f => .refused f (g.leftBy c)

/-- Apply operations in turn, up to the first that is refused. -/
def executeAll : Game → List Operation → Outcome
  | g, [] => .accepted g
  | g, o :: os => (g.execute o).andThen fun g' => g'.executeAll os

/-! ## Whole-game moves -/

/-- The operations that end a generation. -/
def generationEnd (g : Game) : List Operation :=
  g.playerIds.map .produce ++ [.resetCardActions, .advanceGeneration]

/-- Everyone produces, and the next generation starts. -/
def advance (g : Game) : Outcome := g.executeAll g.generationEnd

/-- Buy cards into the hand of `p`; nothing if they cost too much. -/
def purchase (g : Game) (p : PlayerId) (cards : List Card) : Except Fault (Option Game) := do
  if !(← g.player p).canPurchase cards.length then return none
  return some (← (g.execute (.purchaseCards p cards)).toExcept)

end Game

end Terraforming
