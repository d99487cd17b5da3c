import Terraforming.Proofs.Turn.Meeting
import Terraforming.Proofs.Turn.Questions

/-!
# What impacts emit

Whatever is answered to the demand of an impact, the type of the impact says which types of operations
may follow (`ImpactType.emits`).  They are about the player who caused it, or about nobody, unless the
impact is of one of three types, which are aimed at a player or at a card of one (`ImpactType.aims`).

* `Demand.Leads` — the operations that an answer leads to; `leads_of_performed` and
  `leads_of_answered` find them where a demand is met;
* `Impact.demand_emits`, `Impact.demand_serves` — every impact.
-/

namespace Terraforming

/-! ## What comes of a demand -/

/-- The operations that an answer to a demand may lead to. -/
inductive Demand.Leads {i : Impact} : Demand i → List Operation → Prop where
  | perform {ops : List Operation} : Leads (.perform ops) ops
  | place {ls : List Location} {ops : Location → List Operation} (l : Location) :
      Leads (.place ls ops) (ops l)
  | aim {ps : List PlayerId} {ops : PlayerId → List Operation} (p : PlayerId) :
      Leads (.aim ps ops) (ops p)
  | pick {ts : List (PlayerId × Int)} {ops : PlayerId × Int → Except Refusal (List Operation)}
      {t : PlayerId × Int} {os : List Operation} : ops t = .ok os → Leads (.pick ts ops) os

section

variable {i : Impact} {d : Demand i} {b : Board} {cs rest : List Choice} {ops : List Operation}
  {bonuses : List Impact}

theorem Demand.Yields.leads (h : d.Yields b cs ops bonuses) : d.Leads ops := by
  cases h with
  | perform => exact .perform
  | place => exact .place _
  | aim => exact .aim _
  | pick _ _ ok => exact .pick ok

/-- What is performed is what the demand leads to. -/
theorem Demand.leads_of_performed (h : d.meet b cs = .performed ops) : d.Leads ops :=
  (yields_of_performed h).leads

/-- So is what an answer leads to, and the bonuses are those of a location, if there are any. -/
theorem Demand.leads_of_answered {used : rest.length < cs.length}
    (h : d.meet b cs = .answered ops bonuses rest used) :
    d.Leads ops ∧ (bonuses = [] ∨ ∃ l, bonuses = b.placementBonuses l) := by
  obtain ⟨c, -, yields⟩ := yields_of_answered h
  exact ⟨yields.leads, yields.bonuses⟩

end

/-! ## Types -/

/-- The types of the operations that come of impacts of a type. -/
def ImpactType.emits : ImpactType → List OperationType
  | raiseTemperature => [.raiseTemperature, .raiseTerraformRating]
  | raiseOxygen => [.raiseOxygen, .raiseTerraformRating]
  | raiseTerraformRating | gainTerraformRatingPerOwnTag => [.raiseTerraformRating]
  | placeOcean => [.placeOcean, .raiseTerraformRating]
  | placeGreenery => [.placeGreenery, .raiseOxygen, .raiseTerraformRating]
  | placeCity => [.placeCityTile]
  | placeSpecialTile => [.placeSpecialTile]
  | drawCard => [.drawCards]
  | addResourceToSameCard | addResourceToAnotherCard | addResourceToAnyCard
  | removeResourceFromAnyCard => [.changeCardResource]
  | gainResource | gainResourcePerCity | gainResourcePerCityOnMars | destroyOwnPlants
  | destroyAnyPlants => [.changeResources]
  | gainProduction | gainProductionPerCity | gainProductionPerCityOnMars | gainProductionPerOwnTag
  | gainProductionPerOpponentTag | gainProductionPerAnyTag | reduceAnyProduction
  | copyProductionOfCard => [.changeProduction]
  | discountNextCard => [.addEffect]
  | oneOf => []

/-- All of the operations are of the types. -/
def Operation.OfTypes (ts : List OperationType) (os : List Operation) : Prop :=
  ∀ o ∈ os, o.type ∈ ts

/-- The types of the impacts that are aimed at a player, or at a card of one. -/
def ImpactType.aims : ImpactType → Bool
  | removeResourceFromAnyCard | destroyAnyPlants | reduceAnyProduction => true
  | _ => false

namespace Operation

/-- The operation is about `actor`, or about nobody. -/
def Minds (actor : PlayerId) (o : Operation) : Prop := o.player = some actor ∨ o.player = none

/-- All of the operations are of the types, and about `actor` or nobody. -/
def Serve (actor : PlayerId) (ts : List OperationType) (os : List Operation) : Prop :=
  ∀ o ∈ os, o.type ∈ ts ∧ o.Minds actor

namespace Serve

variable {actor : PlayerId} {ts : List OperationType} {o o' : Operation} {os : List Operation}

theorem nil : Serve actor ts [] := List.forall_mem_nil _

theorem cons (first : o.type ∈ ts) (minds : o.Minds actor) (rest : Serve actor ts os) :
    Serve actor ts (o :: os) :=
  List.forall_mem_cons.2 ⟨⟨first, minds⟩, rest⟩

theorem singleton (minds : o.Minds actor) : Serve actor [o.type] [o] :=
  cons (List.mem_singleton_self _) minds nil

theorem own (own : o.player = some actor) : Serve actor [o.type] [o] := singleton (.inl own)

theorem pair (minds : o.Minds actor) (minds' : o'.Minds actor) :
    Serve actor [o.type, o'.type] [o, o'] :=
  cons List.mem_cons_self minds (cons (List.mem_cons_of_mem _ List.mem_cons_self) minds' nil)

end Serve

theorem OfTypes.singleton {o : Operation} : OfTypes [o.type] [o] :=
  List.forall_mem_singleton.2 (List.mem_singleton_self o.type)

end Operation

open Operation (OfTypes Serve)

namespace Demand

variable {i : Impact}

/-- Whatever is answered, operations of the types follow. -/
def Emits (ts : List OperationType) (d : Demand i) : Prop := ∀ ops, d.Leads ops → OfTypes ts ops

/-- Whatever is answered, operations of the types follow that are about `actor` or nobody. -/
def Serves (actor : PlayerId) (ts : List OperationType) (d : Demand i) : Prop :=
  ∀ ops, d.Leads ops → Serve actor ts ops

theorem Serves.emits {actor : PlayerId} {ts : List OperationType} {d : Demand i}
    (h : d.Serves actor ts) : d.Emits ts :=
  fun ops leads o ho => (h ops leads o ho).1

end Demand

namespace Impact

variable {i : Impact} {g : Game} {actor : PlayerId} {source : Option Int} {d : Demand i}
  {ts : List OperationType}

/-! ## The shapes of demands -/

theorem aim_emits {ps : List PlayerId} {ops : PlayerId → List Operation}
    (of : ∀ p, OfTypes ts (ops p)) : (Demand.aim ps ops : Demand i).Emits ts := by
  rintro _ ⟨⟩
  exact of _

theorem pick_emits {targets : List (PlayerId × Int)}
    {ops : PlayerId × Int → Except Refusal (List Operation)}
    (of : ∀ t os, ops t = .ok os → OfTypes ts os) : (Demand.pick targets ops : Demand i).Emits ts := by
  rintro os ⟨⟩
  exact of _ os ‹_›

theorem perform_serves {ops : List Operation} (serve : Serve actor ts ops) :
    (Demand.perform ops : Demand i).Serves actor ts := by
  rintro _ ⟨⟩
  exact serve

theorem pick_serves {targets : List (PlayerId × Int)}
    {ops : PlayerId × Int → Except Refusal (List Operation)}
    (serve : ∀ t os, ops t = .ok os → Serve actor ts os) :
    (Demand.pick targets ops : Demand i).Serves actor ts := by
  rintro os ⟨⟩
  exact serve _ os ‹_›

theorem placeOn_serves {rs : List Restriction} {ops : Location → List Operation}
    (serve : ∀ l, Serve actor ts (ops l)) : (i.placeOn g actor rs ops).Serves actor ts := by
  unfold placeOn
  split
  · exact nofun
  · rintro _ ⟨⟩
    exact serve _

theorem serve_oxygenStep : Serve actor [.raiseOxygen, .raiseTerraformRating] (oxygenStep actor) :=
  .pair (.inr rfl) (.inl rfl)

theorem serve_copyOps {q : Player} {c : Card} {os : List Operation}
    (h : copyOps q actor c = .ok os) : Serve actor [.changeProduction] os := by
  unfold copyOps at h
  split at h
  · cases h
  · cases h
    intro o ho
    obtain ⟨r, -, rfl⟩ := List.mem_map.1 ho
    exact ⟨List.mem_cons_self, .inl rfl⟩

/-! ## Every impact -/

theorem emits_of_productive {t : ImpactType} (h : t ∈ ImpactType.productive) :
    t.emits = [.changeProduction] ∧ t.aims = false := by
  revert t
  decide

/-- **What impacts emit** when they are not aimed: operations of the types that their own type names,
about the actor or nobody. -/
theorem demand_serves (h : i.demand g actor source = .ok d) (type : i.type.aims = false) :
    d.Serves actor i.type.emits := by
  cases demand_makes h with
  | skip | refuse | choose => exact nofun
  | temperature ht =>
    rw [ht]
    exact perform_serves (.pair (.inr rfl) (.inl rfl))
  | oxygen ht =>
    rw [ht]
    exact perform_serves serve_oxygenStep
  | rating ht | ratingPerTag ht | cards ht | sameCard ht | gain ht | ownPlants ht | discount ht =>
    rw [ht]
    exact perform_serves (.own rfl)
  | gainPerCity ht =>
    obtain ht | ht := ht <;> rw [ht] <;> exact perform_serves (.own rfl)
  | production ht =>
    rw [(emits_of_productive ht).1]
    exact perform_serves (.own rfl)
  | ocean ht =>
    rw [ht]
    exact placeOn_serves fun l => .pair (.inr rfl) (.inl rfl)
  | greenery ht =>
    rw [ht]
    refine placeOn_serves fun l => .cons List.mem_cons_self (.inl rfl) ?_
    split
    · exact .nil
    · exact fun o ho => (serve_oxygenStep o ho).imp_left (List.mem_cons_of_mem _)
  | city ht | specialTile ht =>
    rw [ht]
    exact placeOn_serves fun l => .own rfl
  | ownCard ht =>
    have emits : i.type.emits = [.changeCardResource] := by obtain ht | ht := ht <;> rw [ht] <;> rfl
    rw [emits]
    refine pick_serves ?_
    rintro t os ⟨⟩
    exact .own rfl
  | copy ht =>
    rw [ht]
    refine pick_serves fun t os ho => ?_
    split at ho
    · exact serve_copyOps ho
    · cases ho
      exact .nil
  | removal ht | anyPlants ht | reduction ht =>
    rw [ht] at type
    cases type

/-- **What impacts emit**: the operations that come of an impact are of the types that its own type
names. -/
theorem demand_emits (h : i.demand g actor source = .ok d) : d.Emits i.type.emits := by
  cases aims : i.type.aims with
  | false => exact (demand_serves h aims).emits
  | true =>
    cases demand_makes h with
    | skip | refuse | choose => exact nofun
    | removal ht =>
      rw [ht]
      refine pick_emits ?_
      rintro t os ⟨⟩
      exact .singleton
    | anyPlants ht | reduction ht =>
      rw [ht]
      exact aim_emits fun p => .singleton
    | production ht => cases aims.symm.trans (emits_of_productive ht).2
    | ownCard ht | gainPerCity ht => obtain ht | ht := ht <;> rw [ht] at aims <;> cases aims
    | _ ht =>
      rw [ht] at aims
      cases aims

end Impact

end Terraforming
