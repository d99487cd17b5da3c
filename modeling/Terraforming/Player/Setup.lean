import Terraforming.Player.Basic

/-!
# Setting players up

How a player enters a game.  Cards that are in play from the start get instance ids from zero and
contribute their passive effects, as if they had been played.
-/

namespace Terraforming

/-- The starting position of a player. -/
structure PlayerSetup where
  id : PlayerId
  solo : Bool := false
  /-- Balances that differ from nothing; a later one replaces an earlier one. -/
  resources : List (Resource × Int) := []
  /-- A megacredit balance that goes before the one in `resources`. -/
  megacredits : Option Int := none
  production : List (Resource × Int) := []
  hand : List Card := []
  played : List Card := []
  /-- Resources on the cards in play, by the name of the card. -/
  cardResources : List (String × CardResource × Int) := []
  rating : Option Int := none

namespace Player

/-- Bring a card into play, with its effects. -/
def putIntoPlay (p : Player) (c : Card) : Player :=
  { p with
    played := p.played ++ [⟨p.nextInstance, c⟩]
    effects := p.effects ++ c.effects.map fun e => ⟨p.nextInstance, e⟩
    nextInstance := p.nextInstance + 1 }

/-- Lay resources on the first card in play with a name. -/
def layResources (p : Player) (e : String × CardResource × Int) : Except Misuse Player :=
  match p.playedNamed? e.1 with
  | none => .error (.notInPlay e.1)
  | some c => .ok { p with cardResources := p.cardResources.insert ⟨c.instanceId, e.2.1⟩ e.2.2 }

end Player

namespace PlayerSetup

/-- Write every listed amount into a pool. -/
def writeAll (p : Pool) (es : List (Resource × Int)) : Pool :=
  es.foldl (fun p e => p.insert e.1 e.2) p

def startingResources (s : PlayerSetup) : Pool :=
  writeAll .zero (s.resources ++ (s.megacredits.map (Resource.megacredits, ·)).toList)

/-- The player, if the cards named are in play and no balance starts below nothing. -/
def player (s : PlayerSetup) : Except Misuse Player := do
  let bare : Player :=
    { id := s.id
      resources := s.startingResources
      production := writeAll .zero s.production
      hand := s.hand
      rating := s.rating.getD (if s.solo then soloStartingRating else startingRating) }
  let p ← s.cardResources.foldlM Player.layResources (s.played.foldl Player.putIntoPlay bare)
  match p.resources.entries.find? fun e => e.2 < 0 with
  | some (r, n) => .error (.negativeStart r n)
  | none => return p

end PlayerSetup

end Terraforming
