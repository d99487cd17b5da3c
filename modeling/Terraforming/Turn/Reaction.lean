import Terraforming.Game.Basic

/-!
# Reactions

What the passive effects of all players do when a card was played or an impact has happened.  They
react player by player, by id, and effect by effect, in the order in which the effects came into
play.  A reaction is a gain, and gains set off no further reactions.
-/

namespace Terraforming

/-- The gain that an effect of `owner` gives. -/
def ActiveEffect.gain (owner : PlayerId) (a : ActiveEffect) : Option Operation :=
  let e := a.effect
  match e.type with
  | .gainCardResourceForOwnImpact | .gainCardResourceForAnyImpact =>
    some (.changeCardResource owner a.source e.cardResource e.count)
  | .gainResourceForOwnImpact | .gainResourceForAnyImpact =>
    some (.changeResources owner e.resource e.count)
  | .gainProductionForOwnImpact | .gainProductionForAnyImpact =>
    some (.changeProduction owner e.resource e.count)
  | _ => none

/-- How an effect of `owner` reacts to an impact that `actor` caused. -/
def ActiveEffect.onImpact (actor : PlayerId) (i : Impact) (owner : PlayerId) (a : ActiveEffect) :
    Option Operation :=
  if a.effect.type.answersOwnImpact && owner ≠ actor then none
  else if a.effect.triggers.any i.fits then a.gain owner
  else none

/-- How an effect of `owner` reacts to a card that `actor` plays. -/
def ActiveEffect.onCard (actor : PlayerId) (c : Card) (owner : PlayerId) (a : ActiveEffect) :
    Option Operation :=
  let e := a.effect
  let tags : Int := c.countTag e.tag
  if tags = 0 then none
  else match e.type with
    | .rebateAfterPlayingCardTag =>
      if owner = actor then some (.changeResources owner (some .megacredits) (e.count * tags))
      else none
    | .gainProductionForAnyTagPlayed =>
      some (.changeProduction owner e.resource (e.count * tags))
    | _ => none

namespace Game

/-- The reactions of all effects, given how an effect of an owner reacts. -/
def reactions (g : Game) (react : PlayerId → ActiveEffect → Option Operation) : List Operation :=
  g.players.entries.flatMap fun e => e.2.effects.filterMap (react e.1)

def reactionsToImpact (g : Game) (actor : PlayerId) (i : Impact) : List Operation :=
  g.reactions (ActiveEffect.onImpact actor i)

def reactionsToCard (g : Game) (actor : PlayerId) (c : Card) : List Operation :=
  g.reactions (ActiveEffect.onCard actor c)

end Game

end Terraforming
