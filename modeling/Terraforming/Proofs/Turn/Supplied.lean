import Terraforming.Proofs.Game.Supplied
import Terraforming.Proofs.Turn.Demands
import Terraforming.Proofs.Turn.Failures

/-!
# Impacts that have what they need

In a supplied game, what an impact with all its parameters demands is worked out without a crash, and no
legal answer leads to one.  The bonuses of the standard layout are such impacts, and the gains of
complete effects do not crash either; so neither does a resolution, and what it leaves open is
again of the kind.

* `Impact.demand_fits`, `Impact.demand_runs` — every impact;
* `Game.endures_reactionsToImpact`, `Game.endures_reactionsToCard` — effects;
* `Impact.tolerates_supplied`, `Impact.resolve_runs` — resolutions.
-/

namespace Terraforming

open Operation (Suits)

/-! ## Demands -/

/-- Whatever is answered to the demand, the operations do not crash. -/
def Demand.Fits {i : Impact} (g : Game) : Demand i → Prop
  | skip | refuse _ | choose => True
  | perform ops => g.Endures ops
  | place ls ops => ∀ l ∈ ls, g.Endures (ops l)
  | aim ps ops => ∀ p ∈ ps, g.Endures (ops p)
  | pick ts ops => ∀ t ∈ ts, ∀ os, ops t = .ok os → g.Endures os

theorem Demand.Fits.endures {i : Impact} {g : Game} {d : Demand i} {b : Board} {answer : List Choice}
    {ops : List Operation} {more : List Impact} (fits : d.Fits g)
    (yields : d.Yields b answer ops more) : g.Endures ops := by
  cases yields with
  | perform => exact fits
  | place _ legal => exact fits _ legal
  | aim _ legal => exact fits _ legal
  | pick _ legal ok => exact fits _ legal _ ok

theorem Operation.suits_rating {ids : List PlayerId} {p : PlayerId} (hp : p ∈ ids) (n : Int) :
    (raiseTerraformRating p n).Suits ids :=
  .of hp rfl rfl trivial

theorem Operation.suits_production {ids : List PlayerId} {p : PlayerId} (hp : p ∈ ids) (r : Resource)
    (n : Int) : (changeProduction p (some r) n).Suits ids :=
  .of hp rfl rfl trivial

theorem Operation.suits_resources {ids : List PlayerId} {p : PlayerId} (hp : p ∈ ids) (r : Resource)
    (n : Int) : (changeResources p (some r) n).Suits ids :=
  .of hp rfl rfl trivial

theorem Operation.suits_cardResource {ids : List PlayerId} {p : PlayerId} (hp : p ∈ ids) (i : Int)
    (kind : CardResource) (n : Int) : (changeCardResource p i (some kind) n).Suits ids :=
  .of hp rfl rfl trivial

open Operation

namespace Impact

variable {i : Impact} {g : Game} {actor : PlayerId} {q : Player} {source : Option Int} {d : Demand i}

/-- A tile goes to a location that is listed, and there is nothing there. -/
theorem placeOn_fits (supplied : g.Supplied) {rs : List Restriction} {first : Location → Operation}
    {t : Tile} {rest : List Operation} (read : ∀ l, (first l).command? = .ok (.placeTile l t))
    (suits : ∀ o ∈ rest, o.Suits g.playerIds) :
    (i.placeOn g actor rs fun l => first l :: rest).Fits g := by
  unfold placeOn
  split
  · trivial
  · intro l hl
    obtain ⟨space, -, empty, -⟩ := Board.mem_legalLocations hl
    exact Game.endures_place supplied (read l) empty suits

theorem suits_oxygenStep (hp : actor ∈ g.playerIds) :
    ∀ o ∈ oxygenStep actor, o.Suits g.playerIds := by
  have raises : Operation.raiseOxygen.Suits g.playerIds :=
    ⟨.raiseOxygen, rfl, trivial, by rintro _ ⟨⟩⟩
  exact List.forall_mem_cons.2 ⟨raises, List.forall_mem_singleton.2 (suits_rating hp 1)⟩

theorem endures_copyOps (supplied : g.Supplied) (hp : actor ∈ g.playerIds) {c : Card}
    {os : List Operation} (h : copyOps q actor c = .ok os) : g.Endures os := by
  unfold copyOps at h
  split at h
  · cases h
  · cases h
    refine Game.endures_of_suits supplied fun o ho => ?_
    obtain ⟨r, -, rfl⟩ := List.mem_map.1 ho
    exact suits_production hp r _

/-- No legal answer to an impact that has its parameters leads to a crash. -/
theorem demand_fits (supplied : g.Supplied) (hp : actor ∈ g.playerIds) (informed : i.Informed)
    (h : i.demand g actor source = .ok d) : d.Fits g := by
  cases demand_makes h with
  | skip | refuse | choose => trivial
  | temperature =>
    have raises : Operation.raiseTemperature.Suits g.playerIds :=
      ⟨.raiseTemperature, rfl, trivial, by rintro _ ⟨⟩⟩
    exact Game.endures_of_suits supplied
      (List.forall_mem_cons.2 ⟨raises, List.forall_mem_singleton.2 (suits_rating hp 1)⟩)
  | oxygen => exact Game.endures_of_suits supplied (suits_oxygenStep hp)
  | rating | ratingPerTag => exact Game.endures_singleton supplied (suits_rating hp _)
  | ocean =>
    exact placeOn_fits supplied (fun _ => rfl) (List.forall_mem_singleton.2 (suits_rating hp 1))
  | greenery =>
    refine placeOn_fits supplied (fun _ => rfl) ?_
    split
    · exact List.forall_mem_nil _
    · exact suits_oxygenStep hp
  | city | specialTile => exact placeOn_fits supplied (fun _ => rfl) (List.forall_mem_nil _)
  | cards | discount => exact Game.endures_singleton supplied (.of hp rfl rfl trivial)
  | sameCard type =>
    obtain ⟨kind, hk⟩ := informed.cardResource (by rw [type]; rfl)
    rw [hk]
    exact Game.endures_singleton supplied (suits_cardResource hp _ kind _)
  | ownCard type =>
    obtain ⟨kind, hk⟩ := informed.cardResource (by obtain type | type := type <;> rw [type] <;> rfl)
    rintro t - os ⟨⟩
    rw [hk]
    exact Game.endures_singleton supplied (suits_cardResource hp _ kind _)
  | removal type =>
    obtain ⟨kind, hk⟩ := informed.cardResource (by rw [type]; rfl)
    rintro t ht os ⟨⟩
    obtain ⟨⟨p, q⟩, he, ht⟩ := List.mem_flatMap.1 ht
    obtain ⟨c, -, rfl⟩ := List.mem_map.1 ht
    have hp := Game.mem_playerIds.2 ⟨q, Table.get?_eq_some_iff.2 he⟩
    rw [hk]
    exact Game.endures_singleton supplied (suits_cardResource hp _ kind _)
  | gain type =>
    obtain ⟨r, hr⟩ := informed.resource (by rw [type]; rfl)
    rw [hr]
    exact Game.endures_singleton supplied (suits_resources hp r _)
  | gainPerCity type =>
    obtain ⟨r, hr⟩ := informed.resource (by obtain type | type := type <;> rw [type] <;> rfl)
    rw [hr]
    exact Game.endures_singleton supplied (suits_resources hp r _)
  | ownPlants => exact Game.endures_singleton supplied (suits_resources hp .plants _)
  | anyPlants =>
    intro p hp
    exact Game.endures_singleton supplied (suits_resources (List.mem_of_mem_filter hp) .plants _)
  | production type =>
    obtain ⟨r, hr⟩ := informed.resource (ImpactType.needsResource_of_productive type)
    rw [hr]
    exact Game.endures_singleton supplied (suits_production hp r _)
  | reduction type =>
    obtain ⟨r, hr⟩ := informed.resource (by rw [type]; rfl)
    intro p hp
    obtain ⟨⟨p, q⟩, he, rfl⟩ := List.mem_map.1 hp
    have hp := Game.mem_playerIds.2 ⟨q, Table.get?_eq_some_iff.2 (List.mem_of_mem_filter he)⟩
    rw [hr]
    exact Game.endures_singleton supplied (suits_production hp r _)
  | copy =>
    intro t _ os hos
    dsimp only at hos
    split at hos
    · exact endures_copyOps supplied hp hos
    · cases hos
      exact Game.endures_of_suits supplied (List.forall_mem_nil _)

/-- **What an impact demands** is worked out without a crash when it has its parameters, and no legal
answer leads to one. -/
theorem demand_runs (supplied : g.Supplied) (hq : g.player? actor = some q) (hi : i.supplied = true) :
    Runs (i.demand g actor source) (·.Fits g) := by
  obtain ⟨d, hd⟩ := demand_answers (informed_of_supplied hi) hq source
  exact .of_ok hd (demand_fits supplied (Game.mem_playerIds.2 ⟨q, hq⟩) (informed_of_supplied hi) hd)

end Impact

/-! ## Bonuses and effects -/

theorem Board.supplied_bonuses :
    ∀ e ∈ standard.spaces.entries, ∀ i ∈ e.2.bonuses, i.supplied = true := by
  decide +kernel

theorem ActiveEffect.suits_gain {ids : List PlayerId} {owner : PlayerId} {a : ActiveEffect}
    {o : Operation} (complete : a.effect.complete = true) (hp : owner ∈ ids)
    (h : a.gain owner = some o) : o.Suits ids := by
  unfold Effect.complete at complete
  simp only [gain] at h
  cases type : a.effect.type with
  | gainCardResourceForOwnImpact | gainCardResourceForAnyImpact =>
    simp only [type] at complete h
    obtain ⟨kind, hk⟩ := Option.isSome_iff_exists.1 complete
    rw [hk] at h
    cases h
    exact suits_cardResource hp _ kind _
  | gainResourceForOwnImpact | gainResourceForAnyImpact =>
    simp only [type] at complete h
    obtain ⟨r, hr⟩ := Option.isSome_iff_exists.1 complete
    rw [hr] at h
    cases h
    exact suits_resources hp r _
  | gainProductionForOwnImpact | gainProductionForAnyImpact =>
    simp only [type] at complete h
    obtain ⟨r, hr⟩ := Option.isSome_iff_exists.1 complete
    rw [hr] at h
    cases h
    exact suits_production hp r _
  | _ =>
    simp only [type] at h
    cases h

namespace Game

variable {g : Game} {l : Location} {i : Impact}

theorem Supplied.bonuses (supplied : g.Supplied) (hi : i ∈ g.board.placementBonuses l) :
    i.supplied = true := by
  obtain ⟨space, hs, printed⟩ | ⟨n, rfl⟩ := Board.mem_placementBonuses hi
  · rw [supplied.layout] at hs
    exact Board.supplied_bonuses (l, space) (Table.get?_eq_some_iff.1 hs) i printed
  · rfl

theorem endures_reactionsToImpact (supplied : g.Supplied) (actor : PlayerId) (i : Impact) :
    g.Endures (g.reactionsToImpact actor i) := by
  refine endures_of_suits supplied fun o ho => ?_
  obtain ⟨p, q, a, hq, ha, gain⟩ := mem_reactionsToImpact ho
  exact a.suits_gain (supplied.effects p q hq a ha) (mem_playerIds.2 ⟨q, hq⟩) gain

theorem endures_reactionsToCard (supplied : g.Supplied) (actor : PlayerId) (c : Card) :
    g.Endures (g.reactionsToCard actor c) := by
  refine endures_of_suits supplied fun o ho => ?_
  obtain ⟨p, q, a, hq, ha, tags, reacts⟩ := mem_reactionsToCard ho
  have hp := mem_playerIds.2 ⟨q, hq⟩
  obtain ⟨-, rfl⟩ | ⟨type, rfl⟩ := reacts
  · exact suits_resources hp .megacredits _
  · -- no card has tags of no kind
    have tag : a.effect.tag.isNone = false := by
      cases tag : a.effect.tag with
      | none =>
        rw [tag] at tags
        exact absurd rfl tags
      | some t => rfl
    have complete := supplied.effects p q hq a ha
    simp only [Effect.complete, type, tag, Bool.false_or] at complete
    obtain ⟨r, hr⟩ := Option.isSome_iff_exists.1 complete
    rw [hr]
    exact suits_production hp r _

end Game

/-! ## Resolutions -/

theorem Progress.emit_runs {p : Progress} {ops : List Operation} (h : p.game.Endures ops) :
    Runs (p.emit ops) (p.game.Onward ·.game) :=
  .map h

namespace Impact

variable {i : Impact} {g : Game} {actor : PlayerId} {source : Option Int} {p : Progress}
  {cs : List Choice} {ops : List Operation} {bonuses queue : List Impact}

/-- What an impact comes to does not crash, and the bonuses that it brings have what they need. -/
theorem Does.endures {answer : List Choice} (does : i.Does actor source g answer ops bonuses)
    (supplied : g.Supplied) (hp : actor ∈ g.playerIds) (hi : i.supplied = true) :
    g.Endures ops ∧ ∀ j ∈ bonuses, j.supplied = true := by
  obtain ⟨d, hd, yields⟩ := does
  obtain ⟨q, hq⟩ := Game.mem_playerIds.1 hp
  refine ⟨((demand_runs supplied hq hi).holds hd).endures yields, ?_⟩
  obtain rfl | ⟨l, rfl⟩ := yields.bonuses
  · exact List.forall_mem_nil _
  · exact fun j hj => supplied.bonuses hj

theorem demand_safe {f : Fault} (supplied : g.Supplied) (hp : actor ∈ g.playerIds)
    (hi : i.supplied = true) (hd : i.demand g actor source = .error f) : f.isCrash = false := by
  obtain ⟨q, hq⟩ := Game.mem_playerIds.1 hp
  exact (demand_runs supplied hq hi).safe hd

/-- From a supplied game, impacts that have what they need do not crash. -/
theorem tolerates_supplied (hp : actor ∈ g.playerIds) (source : Option Int) :
    Tolerates actor source g.Onward (·.supplied = true) (·.isCrash = false) where
  demand onward hi hd := demand_safe onward.supplied (onward.ids ▸ hp) hi hd
  impact onward hi does := by
    obtain ⟨endures, more⟩ := does.endures onward.supplied (onward.ids ▸ hp) hi
    exact ⟨(Runs.iff_gives.1 endures).mono fun _ => onward.trans, more⟩
  reactions i onward := by
    have endures := Game.endures_reactionsToImpact onward.supplied actor i
    exact (Runs.iff_gives.1 endures).mono fun _ => onward.trans
  undecided t := rfl

/-- **A resolution** of impacts that have what they need does not crash, and what it leaves open has
what it needs as well. -/
theorem resolve_runs (onward : g.Onward p.game) (hp : actor ∈ g.playerIds)
    (sort : ∀ i ∈ queue, i.Throughout (·.supplied = true)) :
    Runs (resolve actor source cs queue p) (·.Keeps g.Onward (·.supplied = true)) :=
  Runs.iff_gives.2 ((tolerates_supplied hp source).resolve onward sort)

end Impact

end Terraforming
