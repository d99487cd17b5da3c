import Terraforming.Proofs.Game.Reading
import Terraforming.Proofs.Game.Sound
import Terraforming.Proofs.Turn.Meeting
import Terraforming.Proofs.Turn.Questions
import Terraforming.Proofs.Turn.Reactions
import Terraforming.Turn.Play

/-!
# The outline of a demand

Whatever an impact demands, the answers that it lists are found on the board, among the players or
among the cards in play, and whatever is answered, the operations that it leads to are consequences.

* `Impact.demand_outline` — every impact;
* `Demand.Outline.meet` — what meeting the demand emits;
* `Game.consequences_reactionsToImpact`, `Game.consequences_reactionsToCard` — what effects emit;
* `Game.entryOps_eq` — what brings a card into play: payments, the card, and consequences.
-/

namespace Terraforming

/-! ## Outlines -/

/-- What a demand can be: where its answers come from, and that consequences follow. -/
inductive Demand.Outline {i : Impact} (g : Game) (actor : PlayerId) : Demand i → Prop
  | skip : Outline g actor .skip
  | refuse (r : Refusal) : Outline g actor (.refuse r)
  | perform {ops : List Operation} (follow : Operation.Consequences ops) :
      Outline g actor (.perform ops)
  | place {rs : List Restriction} {ops : Location → List Operation}
      (follow : ∀ l, Operation.Consequences (ops l)) :
      Outline g actor (.place (g.board.legalLocations actor rs) ops)
  | aim {ps : List PlayerId} {ops : PlayerId → List Operation} (among : ps.Sublist g.playerIds)
      (follow : ∀ p, Operation.Consequences (ops p)) : Outline g actor (.aim ps ops)
  /-- One of the cards of the actor. -/
  | pickOwn {q : Player} {cs : List PlayedCard}
      {ops : PlayerId × Int → Except Refusal (List Operation)} (hq : g.player? actor = some q)
      (among : cs.Sublist q.played) (follow : ∀ t os, ops t = .ok os → Operation.Consequences os) :
      Outline g actor (.pick (cs.map fun c => (actor, c.instanceId)) ops)
  /-- One of the cards of all players. -/
  | pickAny {cs : PlayerId × Player → List PlayedCard}
      {ops : PlayerId × Int → Except Refusal (List Operation)}
      (among : ∀ e, (cs e).Sublist e.2.played)
      (follow : ∀ t os, ops t = .ok os → Operation.Consequences os) :
      Outline g actor
        (.pick (g.players.entries.flatMap fun e => (cs e).map fun c => (e.1, c.instanceId)) ops)
  | choose : Outline g actor .choose

namespace Impact

open Operation

variable {i : Impact} {g : Game} {actor : PlayerId} {source : Option Int} {d : Demand i}

theorem consequences_oxygenStep (p : PlayerId) : Consequences (oxygenStep p) :=
  .cons rfl (.singleton rfl)

theorem placeOn_outline {rs : List Restriction} {ops : Location → List Operation}
    (follow : ∀ l, Consequences (ops l)) : (i.placeOn g actor rs ops).Outline g actor := by
  unfold placeOn
  split
  · exact .refuse _
  · exact .place follow

theorem consequences_copyOps {q : Player} {c : Card} {os : List Operation}
    (h : copyOps q actor c = .ok os) : Consequences os := by
  unfold copyOps at h
  split at h
  · cases h
  · cases h
    intro o ho
    obtain ⟨r, -, rfl⟩ := List.mem_map.1 ho
    rfl

theorem demand_outline (h : i.demand g actor source = .ok d) : d.Outline g actor := by
  cases demand_makes h with
  | skip => exact .skip
  | refuse => exact .refuse _
  | choose => exact .choose
  | temperature => exact .perform (.cons rfl (.singleton rfl))
  | oxygen => exact .perform (consequences_oxygenStep actor)
  | rating | ratingPerTag | cards | sameCard | gain | gainPerCity | ownPlants | production | discount =>
    exact .perform (.singleton rfl)
  | ocean => exact placeOn_outline fun l => .cons rfl (.singleton rfl)
  | greenery =>
    refine placeOn_outline fun l => .cons rfl ?_
    split
    · exact .nil
    · exact consequences_oxygenStep actor
  | city | specialTile => exact placeOn_outline fun l => .singleton rfl
  | ownCard _ hq =>
    refine .pickOwn hq List.filter_sublist ?_
    rintro t os ⟨⟩
    exact .singleton rfl
  | removal =>
    refine .pickAny (fun e => List.filter_sublist) ?_
    rintro t os ⟨⟩
    exact .singleton rfl
  | anyPlants => exact .aim List.filter_sublist fun p => .singleton rfl
  | reduction => exact .aim (List.filter_sublist.map _) fun p => .singleton rfl
  | copy _ hq =>
    refine .pickOwn hq List.filter_sublist fun t os ho => ?_
    split at ho
    · exact consequences_copyOps ho
    · cases ho
      exact .nil

end Impact

/-! ## Consequences -/

/-- The operations that come of a demand are consequences. -/
def Met.Consequences {i : Impact} {cs : List Choice} : Met i cs → Prop
  | performed ops | answered ops _ _ _ => Operation.Consequences ops
  | _ => True

/-- Whatever a demand yields are consequences. -/
theorem Demand.Outline.yields {i : Impact} {g : Game} {actor : PlayerId} {d : Demand i} {b : Board}
    {answer : List Choice} {ops : List Operation} {more : List Impact} (outline : d.Outline g actor)
    (yields : d.Yields b answer ops more) : Operation.Consequences ops := by
  cases yields with
  | perform =>
    cases outline with
    | perform follow => exact follow
  | place =>
    cases outline with
    | place follow => exact follow _
  | aim =>
    cases outline with
    | aim among follow => exact follow _
  | pick _ _ ok =>
    cases outline with
    | pickOwn hq among follow => exact follow _ _ ok
    | pickAny among follow => exact follow _ _ ok

theorem Demand.Outline.meet {i : Impact} {g : Game} {actor : PlayerId} {d : Demand i}
    (outline : d.Outline g actor) (b : Board) (cs : List Choice) : (d.meet b cs).Consequences := by
  cases hm : d.meet b cs with
  | performed ops => exact outline.yields (yields_of_performed hm)
  | answered ops bonuses rest used =>
    obtain ⟨c, -, yields⟩ := yields_of_answered hm
    exact outline.yields yields
  | waiting | skipped | refused | replaced => trivial

theorem ActiveEffect.isConsequence_gain {owner : PlayerId} {a : ActiveEffect} {o : Operation}
    (h : a.gain owner = some o) : o.isConsequence = true := by
  simp only [gain] at h
  split at h <;> cases h <;> rfl

theorem Game.consequences_reactionsToImpact (g : Game) (actor : PlayerId) (i : Impact) :
    Operation.Consequences (g.reactionsToImpact actor i) := by
  intro o ho
  obtain ⟨p, q, a, -, -, gain⟩ := mem_reactionsToImpact ho
  exact ActiveEffect.isConsequence_gain gain

theorem Game.consequences_reactionsToCard (g : Game) (actor : PlayerId) (c : Card) :
    Operation.Consequences (g.reactionsToCard actor c) := by
  intro o ho
  obtain ⟨p, q, a, -, -, -, ⟨-, rfl⟩ | ⟨-, rfl⟩⟩ := mem_reactionsToCard ho <;> rfl

/-! ## Entries -/

theorem consequences_paymentOps (p : PlayerId) (payment : Pool) :
    Operation.Consequences (paymentOps p payment) := by
  intro o ho
  obtain ⟨r, -, rfl⟩ := List.mem_map.1 ho
  rfl

namespace Game

/-- The operations of an entry that come after the card is in play. -/
def followUps (p : PlayerId) (q : Player) (c : Card) : List Operation :=
  (if q.nextCardEffects.isEmpty then [] else [.consumeNextCardEffects p]) ++
    c.effects.map (.addEffect p q.nextInstance ·) ++
    (Resource.all.filter fun r => c.ownChange r ≠ 0).map fun r =>
      .changeProduction p (some r) (c.ownChange r)

variable (p : PlayerId) (q : Player) (c : Card)

theorem entryOps_eq (payment : Pool) :
    entryOps p q c payment =
      paymentOps p payment ++ .putCardIntoPlay p c q.nextInstance :: followUps p q c := by
  simp only [entryOps, followUps, List.append_assoc, List.cons_append, List.nil_append]

theorem consequences_followUps : Operation.Consequences (followUps p q c) := by
  refine .append (.append ?_ (.map fun e => rfl)) (.map fun r => rfl)
  split
  · exact .nil
  · exact .singleton rfl

end Game

end Terraforming
