import Terraforming.Proofs.Turn.Beginnings
import Terraforming.Proofs.Turn.Emissions
import Terraforming.Proofs.Turn.Failures

/-!
# What turns keep

What holds of a game all along, as a queue of impacts is resolved, is seen from a single impact: it is
enough that meeting one demand keeps it, and the reactions to one impact do (`Impact.Maintains`).  Some
properties are only kept by impacts of a sort; then the queue must be of that sort, with every option
that it offers, and so must the bonuses that are printed on the board.  Nothing is asked of what fails:
so the recursion is the one of `Impact.Tolerates`, where anything may be said of the fault.

* `Impact.Maintains.resolve` — every resolution;
* `Game.Begins.keeps` — hence every turn, when its preliminaries keep the property too.
-/

namespace Terraforming

open Operation (Preliminaries)

/-! ## Meeting a demand -/

/-- The operations that follow when a demand is met so. -/
def Met.operations {i : Impact} {cs : List Choice} : Met i cs → List Operation
  | performed ops => ops
  | answered ops _ _ _ => ops
  | _ => []

namespace Demand

variable {i : Impact}

/-- When a demand is met, nothing follows, or what the demand leads to. -/
theorem leads_or_nil (d : Demand i) (b : Board) (cs : List Choice) :
    (d.meet b cs).operations = [] ∨ d.Leads (d.meet b cs).operations := by
  cases hm : d.meet b cs with
  | performed ops => exact .inr (leads_of_performed hm)
  | answered ops bonuses rest used => exact .inr (leads_of_answered hm).1
  | waiting | skipped | refused | replaced => exact .inl rfl

end Demand

/-- Where a tile wants a location, it goes to one that is listed, or nothing follows. -/
theorem Impact.placeOn_operations (i : Impact) (g : Game) (actor : PlayerId) (rs : List Restriction)
    (ops : Location → List Operation) (b : Board) (cs : List Choice) :
    ((i.placeOn g actor rs ops).meet b cs).operations = [] ∨
      ∃ l ∈ g.board.legalLocations actor rs,
        ((i.placeOn g actor rs ops).meet b cs).operations = ops l := by
  unfold placeOn
  split
  · exact .inl rfl
  next listed =>
    cases cs with
    | nil => exact .inl rfl
    | cons c cs =>
      simp only [Demand.meet]
      split
      next l answer => exact .inr ⟨l, (filter_mem_iff.1 answer).2, rfl⟩
      next => exact .inl rfl

/-- What a demand yields follows when it is met with the answer. -/
theorem Demand.Yields.operations_meet {i : Impact} {d : Demand i} {b : Board} {answer : List Choice}
    {ops : List Operation} {more : List Impact} (h : d.Yields b answer ops more) :
    (d.meet b answer).operations = ops := by
  cases h with
  | perform => rfl
  | place named legal | aim named legal =>
    simp only [meet, filter_mem_iff.2 ⟨named, legal⟩, Met.operations]
  | pick named legal ok => simp only [meet, filter_mem_iff.2 ⟨named, legal⟩, ok, Met.operations]

/-! ## Resolutions -/

namespace Impact

/-- Impacts of a sort keep a property of games: one that is resolved does, the reactions to it do, and
the bonuses of the board are of the sort. -/
structure Maintains (Q : Impact → Prop) (P : Game → Prop) : Prop where
  met {g g' : Game} {i : Impact} {actor : PlayerId} {source : Option Int} {d : Demand i}
    (cs : List Choice) : P g → Q i → i.demand g actor source = .ok d →
      g.executeAll (d.meet g.board cs).operations = .accepted g' → P g'
  reactions {g g' : Game} {i : Impact} {actor : PlayerId} : P g →
    g.executeAll (g.reactionsToImpact actor i) = .accepted g' → P g'
  bonuses {g : Game} (l : Location) : P g → ∀ i ∈ g.board.placementBonuses l, Q i

namespace Maintains

variable {Q : Impact → Prop} {P : Game → Prop} {actor : PlayerId} {source : Option Int}
  {cs rest : List Choice} {p p' : Progress} {i : Impact} {bonuses : List Impact}

/-- Nothing is said of what fails. -/
theorem tolerates (m : Maintains Q P) (actor : PlayerId) (source : Option Int) :
    Tolerates actor source P Q fun _ => True where
  demand _ _ _ := trivial
  impact := by
    rintro g i answer ops more start sort ⟨d, hd, yields⟩
    refine ⟨.of_holds fun g' accepted => ?_, ?_⟩
    · refine m.met answer start sort hd ?_
      rw [yields.operations_meet]
      exact Game.toExcept_eq_ok.1 accepted
    · obtain rfl | ⟨l, rfl⟩ := yields.bonuses
      · exact List.forall_mem_nil _
      · exact m.bonuses l start
  reactions i start := .of_holds fun g' accepted => m.reactions start (Game.toExcept_eq_ok.1 accepted)
  undecided _ := trivial

/-- The bonuses of a placement are settled on the way, and those that they bring in turn. -/
theorem settleBonuses (m : Maintains Q P) (start : P p.game) (sort : ∀ i ∈ bonuses, Q i)
    (h : settleBonuses actor source cs bonuses p = .ok (rest, p')) : P p'.game :=
  ((m.tolerates actor source).settleBonuses start sort).holds h

theorem conclude (m : Maintains Q P) (start : P p.game) (h : i.conclude actor p = .ok p') :
    P p'.game :=
  ((m.tolerates actor none).conclude start i).holds h

/-- **A resolution** keeps what its impacts keep, and leaves open impacts of the sort. -/
theorem resolve {queue : List Impact} {a : Attempt} (m : Maintains Q P) (start : P p.game)
    (sort : ∀ i ∈ queue, i.Throughout Q) (h : resolve actor source cs queue p = .ok a) :
    a.Keeps P Q :=
  ((m.tolerates actor source).resolve start sort).holds h

end Maintains

end Impact

/-! ## Turns -/

/-- **A turn** keeps what its preliminaries and the impacts that are printed for it keep. -/
theorem Game.Begins.keeps {g : Game} {p : PlayerId} {cs : List Choice} {Printed Q : Impact → Prop}
    {P : Game → Prop} {a : Attempt} (begins : g.Begins p cs Printed a) (m : Impact.Maintains Q P)
    (onward : ∀ {ops g'}, Preliminaries ops → g.executeAll ops = .accepted g' → P g')
    (sort : ∀ i, Printed i → i.Throughout Q) : a.Keeps P Q := by
  cases begins with
  | refused r => trivial
  | complete underway => exact onward underway.preliminaries underway.leads
  | resolved underway printed resolved =>
    exact m.resolve (onward underway.preliminaries underway.leads)
      (fun i hi => sort i (printed i hi)) resolved

end Terraforming
