import Terraforming.Proofs.Board.Distance
import Terraforming.Proofs.Game.Floors
import Terraforming.Proofs.Game.Marks
import Terraforming.Proofs.Turn.Decisions
import Terraforming.Proofs.Turn.Invariants
import Terraforming.Proofs.Turn.Replay

/-!
# Cities in play

Whoever plays and whatever cards they play, a turn puts cities only where the restrictions of their
kind allow them, since of all impacts only those that place a city lead to such an operation and they
offer just these locations.  So no two cities of the standard layout come to be next to each other,
unless one is of a kind that may be next to another.

* `Board.Settled.executeAll` — operations that put down no city leave the cities at a distance;
* `Impact.maintains_settled` — impacts do, whatever they say;
* `Game.cities_keep_distance` — hence every run of turns, purchases and ends of generations.

A single operation is not restricted in this way: it puts a city on any free space.
-/

namespace Terraforming

open Operation (Preliminaries)

variable {g g' : Game} {o : Operation} {os : List Operation}

/-! ## Operations -/

/-- An operation that puts down no city leaves the cities at a distance, accepted or not. -/
theorem Board.Settled.execute (settled : g.board.Settled) (other : o.type ≠ .placeCityTile) :
    (g.execute o).game.board.Settled := by
  cases h : g.execute o with
  | refused f left =>
    show left.board.Settled
    rw [(Game.unmarked_of_refused h).board]
    exact settled
  | accepted g' =>
    obtain ⟨c, g₁, read, marks, rfl⟩ := Game.execute_marks h
    cases marks with
    | @tile l t b placed =>
      have noCity : t.isCity = false := by
        cases Operation.lays_of_command? read with
        | city type => exact absurd type other
        | ocean | greenery | special => rfl
      exact settled.beside noCity placed
    | temperature | oxygen => exact settled.of_same rfl rfl
    | milestone | award => exact settled
    | nothing _ unmarked =>
      show g₁.board.Settled
      rw [unmarked.board]
      exact settled

theorem Board.Settled.executeAll (settled : g.board.Settled)
    (others : ∀ o ∈ os, o.type ≠ .placeCityTile) : (g.executeAll os).game.board.Settled :=
  Game.game_executeAll_keeps (I := fun g' => g'.board.Settled)
    (fun o ho _ settled => settled.execute (others o ho)) settled

/-- Before the impacts of a turn no city is put down. -/
theorem Operation.Preliminaries.placeNoCity (preliminaries : Preliminaries os) :
    ∀ o ∈ os, o.type ≠ .placeCityTile := by
  intro o ho type
  have preliminary := preliminaries o ho
  rw [isPreliminary, type] at preliminary
  cases preliminary

/-- A city that an operation puts down is put on the board. -/
theorem Game.execute_placeCityTile {p : PlayerId} {l : Location} {kind : CityKind}
    (h : g.execute (.placeCityTile p l kind) = .accepted g') :
    g.board.place l (.city kind p) = .ok g'.board := by
  obtain ⟨c, g₁, read, carried, rfl⟩ := execute_eq_accepted.1 h
  cases read
  obtain ⟨b, placed, rfl⟩ := map_eq_ok.1 carried
  exact placed

/-! ## Impacts -/

namespace Impact

variable {i : Impact} {actor : PlayerId} {source : Option Int} {d : Demand i} {cs : List Choice}

/-- Only an impact that places a city leads to a city. -/
theorem placeCityTile_not_mem_emits {type : ImpactType} (other : type ≠ .placeCity) :
    .placeCityTile ∉ type.emits := by
  cases type with
  | placeCity => exact absurd rfl other
  | _ => decide

/-- It puts the city where the restrictions of its kind allow it, or nothing happens. -/
theorem demand_city (type : i.type = .placeCity) (h : i.demand g actor source = .ok d)
    (b : Board) (cs : List Choice) :
    (d.meet b cs).operations = [] ∨ ∃ kind,
      ∃ l ∈ g.board.legalLocations actor (Restriction.forCity kind),
        (d.meet b cs).operations = [.placeCityTile actor l kind] := by
  unfold demand at h
  rw [type] at h
  cases h
  rcases i.placeOn_operations g actor _ _ b cs with none | some
  · exact .inl none
  · exact .inr ⟨_, some⟩

/-- Whatever impacts say, they leave the cities at a distance. -/
theorem maintains_settled : Maintains (fun _ => True) fun g => g.board.Settled where
  met := by
    intro g g' i actor source d cs settled _ hd accepted
    have kept : (∀ o ∈ (d.meet g.board cs).operations, o.type ≠ .placeCityTile) →
        g'.board.Settled := by
      intro others
      have after := settled.executeAll others
      rw [accepted] at after
      exact after
    by_cases type : i.type = .placeCity
    · rcases demand_city type hd g.board cs with none | ⟨kind, l, legal, founds⟩
      · refine kept ?_
        rw [none]
        exact List.forall_mem_nil _
      · rw [founds] at accepted
        obtain ⟨g₁, placed, last⟩ := Game.executeAll_cons_eq_accepted.1 accepted
        cases last
        exact settled.found legal (Game.execute_placeCityTile placed)
    · refine kept fun o ho city => placeCityTile_not_mem_emits type ?_
      rcases d.leads_or_nil g.board cs with none | leads
      · rw [none] at ho
        cases ho
      · exact city ▸ demand_emits hd _ leads o ho
  reactions := by
    intro g g' i actor settled accepted
    have after := settled.executeAll (g.preliminaries_reactionsToImpact actor i).placeNoCity
    rw [accepted] at after
    exact after
  bonuses _ _ _ _ := trivial

end Impact

/-! ## Runs -/

namespace Game

/-- One step of play: going over to the game that an attempt answers with, complete or not, buying
cards, or ending the generation, even if that stops on the way. -/
inductive Plays : Game → Game → Prop
  | attempt {g g' : Game} {a : Attempt} : Attempts g a → a.game? = some g' → Plays g g'
  | purchase {g g' : Game} {p : PlayerId} {cards : List Card} :
      g.purchase p cards = .ok (some g') → Plays g g'
  | generationEnd {g : Game} : Plays g g.advance.game

theorem Attempts.settled {a : Attempt} (attempts : Attempts g a) (settled : g.board.Settled)
    (hg : a.game? = some g') : g'.board.Settled := by
  obtain ⟨p, cs, Printed, begins⟩ := attempts.begins
  refine (begins.keeps Impact.maintains_settled ?_ fun _ _ _ _ => trivial).game hg
  intro ops g₁ preliminaries accepted
  have after := settled.executeAll preliminaries.placeNoCity
  rw [accepted] at after
  exact after

theorem Plays.settled (plays : Plays g g') (settled : g.board.Settled) : g'.board.Settled := by
  cases plays with
  | attempt attempts hg => exact attempts.settled settled hg
  | @purchase _ p cards bought =>
    have other : (Operation.purchaseCards p cards).type ≠ .placeCityTile := nofun
    have after := settled.execute other
    rw [purchase_eq_some bought] at after
    exact after
  | generationEnd => exact settled.executeAll (g.forall_generationEnd (fun _ => nofun) nofun nofun)

/-- **Cities keep their distance.**  In every game that play leads to from a game on the standard
layout without a city, of two cities on adjacent hexes at least one is Noctis City or Urbanized
Area. -/
theorem cities_keep_distance (layout : g.board.spaces = Board.standard.spaces)
    (bare : g.board.cities = ∅) (run : Relation.ReflTransGen Plays g g') :
    ∀ h h' kind owner kind' owner', h.Adjacent h' →
      g'.board.cities.get? (.onMars h) = some (kind, owner) →
      g'.board.cities.get? (.onMars h') = some (kind', owner') →
        CityKind.Exempt kind ∨ CityKind.Exempt kind' := by
  have settled : g'.board.Settled := by
    induction run with
    | refl => exact .of_bare layout bare
    | tail _ step ih => exact step.settled ih
  exact settled.spaced

/-- In `newcomer` a card brings a city and Noctis City, which is put next to it. -/
theorem cities_keep_distance_neighbors :
    newcomer.board.spaces = Board.standard.spaces ∧ newcomer.board.cities = ∅ ∧
      (⟨1, -2⟩ : Hex).Adjacent ⟨2, -2⟩ ∧ ∃ g' kind owner kind' owner',
        Relation.ReflTransGen Plays newcomer g' ∧
          g'.board.cities.get? (.onMars ⟨1, -2⟩) = some (kind, owner) ∧
          g'.board.cities.get? (.onMars ⟨2, -2⟩) = some (kind', owner') ∧
          (CityKind.Exempt kind ∨ CityKind.Exempt kind') := by
  obtain ⟨_, g₁, _, g₂, first, second, both⟩ : ∃ ops₁ g₁ ops₂ g₂,
      newcomer.resolve 1 [.placeCity] [.at_ (.onMars ⟨1, -2⟩)] = .ok (.complete ops₁ g₁) ∧
      g₁.resolve 1 [.placeCity (some .noctisCity)] [.at_ (.onMars ⟨2, -2⟩)] =
        .ok (.complete ops₂ g₂) ∧
      ((g₂.board.cities.get? (.onMars ⟨1, -2⟩)).isSome &&
        (g₂.board.cities.get? (.onMars ⟨2, -2⟩)).isSome) = true := by
    refine ⟨_, _, _, _, Impact.resolve_settled (i := .placeCity) rfl rfl rfl
        (Impact.settleBonuses_performed (i := .gainResource .plants 2) rfl rfl rfl) rfl,
      Impact.resolve_settled (i := .placeCity (some .noctisCity)) rfl rfl rfl
        (Impact.settleBonuses_performed (i := .gainResource .plants 2) rfl rfl rfl) rfl, ?_⟩
    decide +kernel
  obtain ⟨some, some'⟩ := Bool.and_eq_true_iff.1 both
  obtain ⟨⟨kind, owner⟩, city⟩ := Option.isSome_iff_exists.1 some
  obtain ⟨⟨kind', owner'⟩, city'⟩ := Option.isSome_iff_exists.1 some'
  have run : Relation.ReflTransGen Plays newcomer g₂ :=
    .tail (.single (.attempt (.resolve first) rfl)) (.attempt (.resolve second) rfl)
  have adjacent : (⟨1, -2⟩ : Hex).Adjacent ⟨2, -2⟩ := ⟨by decide, by decide, by decide, by decide⟩
  exact ⟨rfl, rfl, adjacent, g₂, kind, owner, kind', owner', run, city, city',
    cities_keep_distance rfl rfl run _ _ kind owner kind' owner' adjacent city city'⟩

end Game

end Terraforming
