import Terraforming.Board.Tile
import Terraforming.Card.Basic
import Terraforming.Data.Total
import Terraforming.Fault

/-!
# Players

A player's economy: balances and production, hand, cards in play and what sits on them, terraform
rating, and the passive effects of the cards in play.  A card in play is known by an instance id,
so that two copies of a card are kept apart.
-/

namespace Terraforming

/-- A card in play. -/
structure PlayedCard where
  instanceId : Int
  card : Card
deriving DecidableEq

/-- A passive effect, and the instance of the card that contributes it. -/
structure ActiveEffect where
  source : Int
  effect : Effect
deriving DecidableEq, Repr

/-- Where card resources lie: an instance, and the kind of resource on it. -/
structure Holding where
  instanceId : Int
  kind : CardResource
deriving DecidableEq, Repr

namespace Holding

instance : Ord Holding := ⟨compareLex (compareOn instanceId) (compareOn kind)⟩

instance : Std.TransOrd Holding :=
  inferInstanceAs (Std.TransCmp (compareLex (compareOn instanceId) (compareOn kind)))

instance : Std.LawfulEqOrd Holding where
  eq_of_compare {a b} h := by
    have h : (compare a.instanceId b.instanceId).then (compare a.kind b.kind) = .eq := h
    rw [Ordering.then_eq_eq] at h
    cases a; cases b
    simp_all

end Holding

/-- The terraform rating that a game starts with. -/
def startingRating : Int := 20

/-- The terraform rating that a game of one player starts with. -/
def soloStartingRating : Int := 14

/-- The price of a card bought into the hand. -/
def cardPrice : Nat := 3

structure Player where
  id : PlayerId
  resources : Pool := .zero
  production : Pool := .zero
  played : List PlayedCard := []
  cardResources : Table Holding Int := ∅
  /-- The instances whose action was used in this generation. -/
  tapped : KeySet Int := ∅
  hand : List Card := []
  rating : Int := startingRating
  effects : List ActiveEffect := []
  /-- Effects that last until the next card is played, or the generation ends. -/
  nextCardEffects : List Effect := []
  nextInstance : Int := 0
deriving DecidableEq

namespace Player

/-- The player with every card in normal form. -/
def normal (p : Player) : Player :=
  { p with
    played := p.played.map fun c => { c with card := c.card.normal }
    hand := p.hand.map Card.normal }

/-! ## Reading -/

/-- A balance; what is not named is not held. -/
def balance (p : Player) (r : Option Resource) : Int :=
  (r.map p.resources.amount).getD 0

/-- A production; what is not named is not produced. -/
def productionOf (p : Player) (r : Option Resource) : Int :=
  (r.map p.production.amount).getD 0

def played? (p : Player) (instanceId : Int) : Option PlayedCard :=
  p.played.find? fun c => c.instanceId = instanceId

def playedNamed? (p : Player) (name : String) : Option PlayedCard :=
  p.played.find? fun c => c.card.name = name

def activeCards (p : Player) : List PlayedCard :=
  p.played.filter fun c => c.card.kind = .active

/-- How many resources of a kind lie on an instance. -/
def held (p : Player) (instanceId : Int) (kind : Option CardResource) : Int :=
  (kind.map fun k => p.cardResources.getD ⟨instanceId, k⟩ 0).getD 0

def effectsOfType (p : Player) (t : EffectType) : List ActiveEffect :=
  p.effects.filter fun e => e.effect.type = t

def holds (p : Player) (c : Card) : Bool := p.hand.contains c

/-! ## Metal values -/

def metalBonus (p : Player) : Int :=
  total ((p.effectsOfType .increasedMetalsValue).map (·.effect.count))

def steelValue (p : Player) : Int := 2 + p.metalBonus

def titaniumValue (p : Player) : Int := 3 + p.metalBonus

/-! ## Protection -/

/-- The kinds of resource that an effect keeps opponents from removing from an instance. -/
def protectedBy (instanceId : Int) (e : ActiveEffect) : List (Option CardResource) :=
  match e.effect.type with
  | .cannotRemoveAnyCardResources => e.effect.cardResources.map some
  | .cannotRemoveThisCardResource =>
    if e.source = instanceId then [e.effect.cardResource] else []
  | _ => []

/-- Every protection of an instance, in the order of the effects. -/
def protectedKinds (p : Player) (instanceId : Int) : List (Option CardResource) :=
  p.effects.flatMap (protectedBy instanceId)

/-! ## Tags -/

/-- The tags of a kind on the cards in play that are not events; a kind that is not given has
none. -/
def tagsInPlay (p : Player) (tag : Option CardTag) : Nat :=
  total ((p.played.filter fun c => !c.card.isEvent).map fun c => c.card.countTag tag)

/-- The tags of a kind in play.  Event tags are not counted so. -/
def tagCount (p : Player) (tag : Option CardTag) : Except Fault Int :=
  if tag = some .event then .error (.misuse .eventTagsNotCounted) else .ok (p.tagsInPlay tag)

/-- Like `tagCount`, with a wild tag standing for any tag. -/
def tagCountForAction (p : Player) (tag : Option CardTag) : Except Fault Int := do
  let plain ← p.tagCount tag
  if tag = some .wild then return plain
  return plain + (← p.tagCount (some .wild))

def eventCount (p : Player) : Nat := p.played.countP fun c => c.card.isEvent

/-! ## Production -/

/-- The lowest production allowed: minus the terraform rating for megacredits, nothing for the
rest. -/
def productionFloor (p : Player) (r : Option Resource) : Int :=
  if r = some .megacredits then -p.rating else 0

def canReduceProduction (p : Player) (r : Option Resource) (amount : Int) : Bool :=
  p.productionFloor r ≤ p.productionOf r - amount

/-- The balance of a resource after the production phase: energy turns to heat, the terraform
rating is paid out, and everything produces. -/
def balanceAfterProduction (p : Player) (r : Resource) : Int :=
  let before := match r with
    | .energy => 0
    | .heat => p.balance (some .heat) + p.balance (some .energy)
    | .megacredits => p.balance (some .megacredits) + p.rating
    | _ => p.balance (some r)
  before + p.productionOf (some r)

/-- The player after the production phase, if no balance ends below nothing. -/
def produce (p : Player) : Except Violation Player :=
  match Resource.all.find? fun r => p.balanceAfterProduction r < 0 with
  | some r => .error (.negativeAfterProduction p.id (p.balanceAfterProduction r) r)
  | none => .ok { p with
      resources := Table.ofList (Resource.all.map fun r => (r, p.balanceAfterProduction r))
      tapped := ∅
      nextCardEffects := [] }

/-! ## Buying cards -/

def canPurchase (p : Player) (count : Nat) : Bool :=
  cardPrice * count ≤ p.balance (some .megacredits)

/-- The player with cards bought into the hand, or nothing if they cost too much.  Whoever has no
megacredit balance at all cannot even buy no cards. -/
def purchase (p : Player) (cards : List Card) : Except Fault (Option Player) :=
  if !p.canPurchase cards.length then .ok none
  else match p.resources.get? .megacredits with
    | none => .error .unlisted
    | some mc => .ok (some { p with
        resources := p.resources.insert .megacredits (mc - cardPrice * cards.length)
        hand := p.hand ++ cards })

end Player

/-- Two players are the same when everything is, with cards compared as cards. -/
instance : BEq Player := ⟨fun p q => decide (p.normal = q.normal)⟩

end Terraforming
