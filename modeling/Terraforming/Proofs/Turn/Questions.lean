import Terraforming.Proofs.Game.Commands
import Terraforming.Turn.Demand

/-!
# What impacts come to

Every demand that an impact can make is listed here once (`Impact.Makes`), with the type of the impact
and with what was found in the game.  What holds of all demands is read off this list.

* `Impact.demand_makes` — every impact, one lemma for each kind of demand;
* `Impact.demand_asks` — the type of an impact says which decision it may ask for
  (`ImpactType.question?`): where a tile goes, who is meant, which card is meant, or which option is
  taken;
* `Impact.type_of_choose` — so who wants an option to be chosen offers options.
-/

namespace Terraforming

/-- The kinds of decisions. -/
inductive Question where
  | location
  | player
  | card
  | option
deriving DecidableEq

namespace Demand

variable {i : Impact}

/-- The decision that a demand asks for. -/
def question? : Demand i → Option Question
  | place .. => some .location
  | aim .. => some .player
  | pick .. => some .card
  | choose => some .option
  | _ => none

/-- The demand asks for no decision but this, if it asks for any. -/
def Asks (k : Option Question) (d : Demand i) : Prop := d.question? = none ∨ d.question? = k

end Demand

/-- The decision that impacts of a type may ask for. -/
def ImpactType.question? : ImpactType → Option Question
  | placeOcean | placeGreenery | placeCity | placeSpecialTile => some .location
  | destroyAnyPlants | reduceAnyProduction => some .player
  | addResourceToAnotherCard | addResourceToAnyCard | removeResourceFromAnyCard
  | copyProductionOfCard => some .card
  | oneOf => some .option
  | _ => none

namespace ImpactType

variable {t : ImpactType}

/-- The types of impacts that change the actor's own production. -/
def productive : List ImpactType :=
  [gainProduction, gainProductionPerCity, gainProductionPerCityOnMars, gainProductionPerOwnTag,
    gainProductionPerOpponentTag, gainProductionPerAnyTag]

theorem question?_of_productive (h : t ∈ productive) : t.question? = none := by
  revert t
  decide

theorem eq_oneOf_of_question (h : some Question.option = t.question?) : t = .oneOf := by
  revert h
  cases t <;> decide

end ImpactType

namespace Impact

/-! ## The list -/

/-- The demands that an impact can make, for the player who caused it with the card `source`, and what
was found in the game where it makes them. -/
inductive Makes (i : Impact) (g : Game) (actor : PlayerId) (source : Option Int) : Demand i → Prop
  | skip : Makes i g actor source .skip
  /-- Only what places tiles is refused for the want of a place, by `placeOn`. -/
  | refuse {r : Refusal} (type : i.type.question? ≠ some .location)
      (lawful : ∀ c t, r ≠ .illegalAnswer c t) : Makes i g actor source (.refuse r)
  | temperature (type : i.type = .raiseTemperature) (below : g.board.temperatureMaxed = false) :
      Makes i g actor source (.perform [.raiseTemperature, .raiseTerraformRating actor])
  | oxygen (type : i.type = .raiseOxygen) (below : g.board.oxygenMaxed = false) :
      Makes i g actor source (.perform (oxygenStep actor))
  | rating (type : i.type = .raiseTerraformRating) :
      Makes i g actor source (.perform [.raiseTerraformRating actor i.count])
  | ratingPerTag {qs : List Player} {n : Int} (type : i.type = .gainTerraformRatingPerOwnTag)
      (counted : i.tagGroups qs = .ok n) :
      Makes i g actor source (.perform [.raiseTerraformRating actor (i.count * n)])
  | ocean (type : i.type = .placeOcean) (left : g.board.oceansMaxed = false) :
      Makes i g actor source (i.placeOn g actor (Restriction.forOcean i.locationKind) fun l =>
        [.placeOcean l, .raiseTerraformRating actor])
  | greenery (type : i.type = .placeGreenery) : Makes i g actor source (i.demandGreenery g actor)
  | city (type : i.type = .placeCity) : Makes i g actor source (i.demandCity g actor)
  | specialTile {tile : SpecialTile} (type : i.type = .placeSpecialTile)
      (named : i.specialTile = some tile) :
      Makes i g actor source (i.placeOn g actor (Restriction.forSpecialTile tile) fun l =>
        [.placeSpecialTile actor l tile])
  | cards (type : i.type = .drawCard) :
      Makes i g actor source
        (.perform [.drawCards actor (min i.count (g.deck.length + g.discard.length))])
  | sameCard {s : Int} (type : i.type = .addResourceToSameCard) (here : source = some s) :
      Makes i g actor source (.perform [.changeCardResource actor s i.cardResource i.count])
  | ownCard {q : Player} {except : Option Int}
      (type : i.type = .addResourceToAnotherCard ∨ i.type = .addResourceToAnyCard)
      (hq : g.player? actor = some q) :
      Makes i g actor source
        (.pick ((i.holders q except).map fun c => (actor, c.instanceId)) fun target =>
          .ok [.changeCardResource actor target.2 i.cardResource i.count])
  | removal (type : i.type = .removeResourceFromAnyCard) :
      Makes i g actor source (.pick (g.players.entries.flatMap (i.removable actor)) fun target =>
        .ok [.changeCardResource target.1 target.2 i.cardResource
          (-min i.count (heldOn g target i.cardResource))])
  | gain {q : Player} (type : i.type = .gainResource) (hq : g.player? actor = some q)
      (enough : 0 ≤ q.balance i.resource + i.count) :
      Makes i g actor source (.perform [.changeResources actor i.resource i.count])
  | gainPerCity {onMarsOnly : Bool}
      (type : i.type = .gainResourcePerCity ∨ i.type = .gainResourcePerCityOnMars) :
      Makes i g actor source
        (.perform [.changeResources actor i.resource (i.count * g.board.cityCount onMarsOnly)])
  | ownPlants {q : Player} (type : i.type = .destroyOwnPlants) (hq : g.player? actor = some q)
      (enough : i.count ≤ q.balance (some .plants)) :
      Makes i g actor source (.perform [.changeResources actor (some .plants) (-i.count)])
  | anyPlants (type : i.type = .destroyAnyPlants) :
      Makes i g actor source (.aim (g.playerIds.filter fun p => 0 < plantsOf g p) fun p =>
        [.changeResources p (some .plants) (-min i.count (plantsOf g p))])
  | production {n : Int} (type : i.type ∈ ImpactType.productive)
      (able : n < 0 → ∃ q, g.player? actor = some q ∧ q.canReduceProduction i.resource (-n) = true) :
      Makes i g actor source (.perform [.changeProduction actor i.resource n])
  | reduction (type : i.type = .reduceAnyProduction) :
      Makes i g actor source
        (.aim ((g.players.entries.filter fun e =>
          e.2.canReduceProduction i.resource i.count).map (·.1)) fun p =>
            [.changeProduction p i.resource (-i.count)])
  | copy {q : Player} (type : i.type = .copyProductionOfCard) (hq : g.player? actor = some q) :
      Makes i g actor source
        (.pick ((i.copyable q source).map fun c => (actor, c.instanceId)) fun target =>
          match q.played? target.2 with
          | some c => copyOps q actor c.card
          | none => .ok [])
  | discount (type : i.type = .discountNextCard) :
      Makes i g actor source (.perform [.addNextCardEffect actor (.anyCardDiscount i.count)])
  | choose (type : i.type = .oneOf) : Makes i g actor source .choose

variable {i : Impact} {g : Game} {actor : PlayerId} {source : Option Int} {d : Demand i}

theorem demandOcean_makes (type : i.type = .placeOcean) :
    i.Makes g actor source (i.demandOcean g actor) := by
  unfold demandOcean
  split
  · exact .skip
  next left => exact .ocean type (Bool.not_eq_true _ ▸ left)

theorem demandSpecialTile_makes (type : i.type = .placeSpecialTile)
    (h : i.demandSpecialTile g actor = .ok d) : i.Makes g actor source d := by
  unfold demandSpecialTile at h
  split at h
  · cases h
  next named =>
    cases h
    exact .specialTile type named

theorem demandSameCard_makes (type : i.type = .addResourceToSameCard) :
    i.Makes g actor source (i.demandSameCard actor source) := by
  cases source with
  | none => exact .refuse (by rw [type]; decide) fun _ _ h => nomatch h
  | some s => exact .sameCard type rfl

theorem demandOwnCard_makes {except : Option Int}
    (type : i.type = .addResourceToAnotherCard ∨ i.type = .addResourceToAnyCard)
    (h : i.demandOwnCard g actor except = .ok d) : i.Makes g actor source d := by
  obtain ⟨q, hq, rfl⟩ := map_eq_ok.1 h
  split
  · exact .skip
  · exact .ownCard type (Game.player_eq_ok.1 hq)

theorem demandRemoval_makes (type : i.type = .removeResourceFromAnyCard)
    (h : i.demandRemoval g actor = .ok d) : i.Makes g actor source d := by
  unfold demandRemoval at h
  split at h
  · obtain ⟨kind, -, ⟨⟩⟩ := bind_eq_ok.1 h
    exact .refuse (by rw [type]; decide) fun _ _ h => nomatch h
  · cases h
    exact .removal type

theorem demandCards_makes (type : i.type = .drawCard) :
    i.Makes g actor source (i.demandCards g actor) := by
  simp only [demandCards]
  split
  · exact .skip
  · exact .cards type

theorem demandGain_makes (type : i.type = .gainResource) (h : i.demandGain g actor = .ok d) :
    i.Makes g actor source d := by
  obtain ⟨q, hq, h⟩ := bind_eq_ok.1 h
  split at h
  · obtain ⟨r, -, ⟨⟩⟩ := bind_eq_ok.1 h
    exact .refuse (by rw [type]; decide) fun _ _ h => nomatch h
  next enough =>
    split at h <;> cases h
    · exact .skip
    · exact .gain type (Game.player_eq_ok.1 hq) (Int.not_lt.1 enough)

theorem demandGainPerCity_makes {onMarsOnly : Bool}
    (type : i.type = .gainResourcePerCity ∨ i.type = .gainResourcePerCityOnMars) :
    i.Makes g actor source (i.demandGainPerCity g actor onMarsOnly) := by
  simp only [demandGainPerCity]
  split
  · exact .skip
  · exact .gainPerCity type

theorem demandOwnPlants_makes (type : i.type = .destroyOwnPlants)
    (h : i.demandOwnPlants g actor = .ok d) : i.Makes g actor source d := by
  obtain ⟨q, hq, h⟩ := bind_eq_ok.1 h
  split at h <;> cases h
  · exact .refuse (by rw [type]; decide) fun _ _ h => nomatch h
  next enough => exact .ownPlants type (Game.player_eq_ok.1 hq) (Int.not_lt.1 enough)

theorem demandAnyPlants_makes (type : i.type = .destroyAnyPlants) :
    i.Makes g actor source (i.demandAnyPlants g) := by
  unfold demandAnyPlants
  split
  · exact .skip
  · exact .anyPlants type

theorem demandProduction_makes {delta : Int} (type : i.type ∈ ImpactType.productive)
    (h : i.demandProduction g actor delta = .ok d) : i.Makes g actor source d := by
  have tileless : i.type.question? ≠ some .location := by
    rw [ImpactType.question?_of_productive type]
    decide
  unfold demandProduction at h
  split at h
  · cases h
    exact .skip
  · split at h
    · obtain ⟨q, hq, h⟩ := bind_eq_ok.1 h
      split at h
      · obtain ⟨r, -, ⟨⟩⟩ := bind_eq_ok.1 h
        exact .refuse tileless fun _ _ h => nomatch h
      next bearable =>
        cases h
        exact .production type fun _ => ⟨q, Game.player_eq_ok.1 hq, by simpa using bearable⟩
    next gains =>
      cases h
      exact .production type fun loss => absurd loss gains

theorem demandReduction_makes (type : i.type = .reduceAnyProduction) :
    i.Makes g actor source (i.demandReduction g) := by
  simp only [demandReduction]
  split
  · exact .skip
  · exact .reduction type

theorem demandCopy_makes (type : i.type = .copyProductionOfCard)
    (h : i.demandCopy g actor source = .ok d) : i.Makes g actor source d := by
  obtain ⟨q, hq, rfl⟩ := map_eq_ok.1 h
  split
  · exact .skip
  · exact .copy type (Game.player_eq_ok.1 hq)

theorem demandRatingPerTag_makes (type : i.type = .gainTerraformRatingPerOwnTag)
    (h : i.demandRatingPerTag g actor = .ok d) : i.Makes g actor source d := by
  obtain ⟨q, -, h⟩ := bind_eq_ok.1 h
  obtain ⟨n, counted, h⟩ := bind_eq_ok.1 h
  simp only at h
  split at h <;> cases h
  · exact .skip
  · exact .ratingPerTag type counted

/-- **Whatever an impact demands** is on the list. -/
theorem demand_makes (h : i.demand g actor source = .ok d) : i.Makes g actor source d := by
  unfold demand at h
  cases type : i.type with
  | raiseTemperature =>
    rw [type] at h
    cases h
    split
    · exact .skip
    next below => exact .temperature type (Bool.not_eq_true _ ▸ below)
  | raiseOxygen =>
    rw [type] at h
    cases h
    split
    · exact .skip
    next below => exact .oxygen type (Bool.not_eq_true _ ▸ below)
  | raiseTerraformRating =>
    rw [type] at h
    cases h
    exact .rating type
  | gainTerraformRatingPerOwnTag =>
    rw [type] at h
    exact demandRatingPerTag_makes type h
  | placeOcean =>
    rw [type] at h
    cases h
    exact demandOcean_makes type
  | placeGreenery =>
    rw [type] at h
    cases h
    exact .greenery type
  | placeCity =>
    rw [type] at h
    cases h
    exact .city type
  | placeSpecialTile =>
    rw [type] at h
    exact demandSpecialTile_makes type h
  | drawCard =>
    rw [type] at h
    cases h
    exact demandCards_makes type
  | addResourceToSameCard =>
    rw [type] at h
    cases h
    exact demandSameCard_makes type
  | addResourceToAnotherCard =>
    rw [type] at h
    exact demandOwnCard_makes (.inl type) h
  | addResourceToAnyCard =>
    rw [type] at h
    exact demandOwnCard_makes (.inr type) h
  | removeResourceFromAnyCard =>
    rw [type] at h
    exact demandRemoval_makes type h
  | gainResource =>
    rw [type] at h
    exact demandGain_makes type h
  | gainResourcePerCity =>
    rw [type] at h
    cases h
    exact demandGainPerCity_makes (.inl type)
  | gainResourcePerCityOnMars =>
    rw [type] at h
    cases h
    exact demandGainPerCity_makes (.inr type)
  | destroyOwnPlants =>
    rw [type] at h
    exact demandOwnPlants_makes type h
  | destroyAnyPlants =>
    rw [type] at h
    cases h
    exact demandAnyPlants_makes type
  | gainProduction | gainProductionPerCity | gainProductionPerCityOnMars =>
    rw [type] at h
    exact demandProduction_makes (by simp [ImpactType.productive, type]) h
  | gainProductionPerOwnTag =>
    rw [type] at h
    obtain ⟨q, -, h⟩ := bind_eq_ok.1 h
    obtain ⟨n, -, h⟩ := bind_eq_ok.1 h
    exact demandProduction_makes (by simp [ImpactType.productive, type]) h
  | gainProductionPerOpponentTag | gainProductionPerAnyTag =>
    rw [type] at h
    obtain ⟨n, -, h⟩ := bind_eq_ok.1 h
    exact demandProduction_makes (by simp [ImpactType.productive, type]) h
  | reduceAnyProduction =>
    rw [type] at h
    cases h
    exact demandReduction_makes type
  | copyProductionOfCard =>
    rw [type] at h
    exact demandCopy_makes type h
  | discountNextCard =>
    rw [type] at h
    cases h
    exact .discount type
  | oneOf =>
    rw [type] at h
    cases h
    exact .choose type

/-! ## Decisions -/

theorem placeOn_asks {rs : List Restriction} {ops : Location → List Operation} :
    (i.placeOn g actor rs ops).Asks (some .location) := by
  unfold placeOn
  split
  · exact .inl rfl
  · exact .inr rfl

/-- **What impacts ask for** is the decision of their type, if any. -/
theorem demand_asks (h : i.demand g actor source = .ok d) : d.Asks i.type.question? := by
  cases demand_makes h with
  | ocean type | greenery type | city type | specialTile type =>
    rw [type]
    exact placeOn_asks
  | removal type | anyPlants type | reduction type | copy type | choose type =>
    rw [type]
    exact .inr rfl
  | ownCard type => obtain type | type := type <;> rw [type] <;> exact .inr rfl
  | _ => exact .inl rfl

/-! ## What a decision says of the impact -/

/-- Only an impact that offers options wants one to be chosen. -/
theorem type_of_choose (h : i.demand g actor source = .ok .choose) : i.type = .oneOf := by
  obtain none | option := demand_asks h
  · cases none
  · exact ImpactType.eq_oneOf_of_question option

theorem demand_of_oneOf (type : i.type = .oneOf) : i.demand g actor source = .ok .choose := by
  rw [demand, type]

end Impact

end Terraforming
