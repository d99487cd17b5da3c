import Terraforming.Proofs.Board.Standard
import Terraforming.Proofs.Game.Floors
import Terraforming.Proofs.Turn.Demands
import Terraforming.Proofs.Turn.Invariants

/-!
# Ratings in a turn

A turn changes ratings by what its impacts say.  Two types of impact name the change themselves, and
of these the printed cards, the standard projects and the standard layout give no loss
(`Impact.SparesRating`).  All other operations of a turn raise ratings by one, or not at all.  So a
turn that is made of such impacts keeps what the production phase needs (`Game.Secure`).

* `Impact.demand_spares` — no impact that spares ratings leads to an operation that lowers one;
* `Impact.resolve_secure` — hence no resolution does;
* `Game.Begins.secure` — and no turn.
-/

namespace Terraforming

/-! ## Sparing -/

/-- The operation lowers no rating. -/
def Operation.sparesRating (o : Operation) : Bool :=
  o.type ≠ .raiseTerraformRating || decide (0 ≤ o.count)

/-- None of the operations lowers a rating. -/
def Operation.Sparing (os : List Operation) : Prop := ∀ o ∈ os, o.sparesRating = true

namespace Operation.Sparing

variable {o : Operation} {os : List Operation}

theorem nil : Sparing [] := fun _ ho => nomatch ho

theorem cons (first : o.sparesRating = true) (rest : Sparing os) : Sparing (o :: os) :=
  List.forall_mem_cons.2 ⟨first, rest⟩

theorem singleton (h : o.sparesRating = true) : Sparing [o] := cons h nil

/-- A rating that is raised by nothing or more. -/
theorem rating {p : PlayerId} {n : Int} (hn : 0 ≤ n) : Sparing [.raiseTerraformRating p n] :=
  singleton (by simp [sparesRating, raiseTerraformRating, hn])

end Operation.Sparing

open Operation (Sparing)

/-- The impact itself takes nothing from a rating. -/
def Impact.SparesRating (i : Impact) : Prop :=
  (i.type = .raiseTerraformRating → 0 ≤ i.count) ∧
    (i.type = .gainTerraformRatingPerOwnTag → 0 ≤ i.count ∧ 0 ≤ i.per)

/-- Nor does any option that it offers, however deep. -/
def Impact.Lenient (i : Impact) : Prop := ∀ j ∈ i.walk, j.SparesRating

theorem Operation.Preliminaries.sparing {os : List Operation} (h : Preliminaries os) :
    Sparing os := by
  intro o ho
  have preliminary := h o ho
  rw [sparesRating, Bool.or_eq_true, decide_eq_true_iff]
  refine .inl fun type => ?_
  rw [isPreliminary, type] at preliminary
  cases preliminary

/-! ## Demands -/

/-- Whatever is answered, the operations that follow lower no rating. -/
def Demand.Spares {i : Impact} (d : Demand i) : Prop := ∀ ops, d.Leads ops → Sparing ops

namespace Impact

variable {i : Impact} {g : Game} {actor : PlayerId} {source : Option Int} {d : Demand i}

theorem perform_spares {ops : List Operation} (spares : Sparing ops) :
    (Demand.perform ops : Demand i).Spares := by
  rintro _ ⟨⟩
  exact spares

theorem placeOn_spares {rs : List Restriction} {ops : Location → List Operation}
    (spares : ∀ l, Sparing (ops l)) : (i.placeOn g actor rs ops).Spares := by
  unfold placeOn
  split
  · exact nofun
  · rintro _ ⟨⟩
    exact spares _

theorem sparing_oxygenStep : Sparing (oxygenStep actor) := .cons rfl (.singleton rfl)

/-- **An impact that spares ratings** leads to no operation that lowers one. -/
theorem demand_spares (spares : i.SparesRating) (h : i.demand g actor source = .ok d) :
    d.Spares := by
  have other : .raiseTerraformRating ∉ i.type.emits → d.Spares := by
    intro never ops leads o ho
    have emitted := demand_emits h ops leads o ho
    have another : o.type ≠ .raiseTerraformRating := fun same => never (same ▸ emitted)
    rw [Operation.sparesRating, decide_eq_true another, Bool.true_or]
  cases demand_makes h with
  | skip | refuse | choose => exact nofun
  | temperature => exact perform_spares (.cons rfl (.singleton rfl))
  | oxygen => exact perform_spares sparing_oxygenStep
  | rating type => exact perform_spares (.rating (spares.1 type))
  | ratingPerTag type counted =>
    obtain ⟨count, per⟩ := spares.2 type
    exact perform_spares (.rating (Int.mul_nonneg count (tagGroups_nonneg per counted)))
  | ocean => exact placeOn_spares fun l => .cons rfl (.singleton rfl)
  | greenery =>
    refine placeOn_spares fun l => .cons rfl ?_
    split
    · exact .nil
    · exact sparing_oxygenStep
  | production type =>
    refine other ?_
    rw [(emits_of_productive type).1]
    decide
  | ownCard type | gainPerCity type =>
    refine other ?_
    obtain type | type := type <;> rw [type] <;> decide
  | _ type =>
    refine other ?_
    rw [type]
    decide

end Impact

/-! ## What the production phase needs -/

namespace Board

variable {b : Board} {l : Location} {i : Impact}

/-- No bonus that is printed on the board takes anything from a rating. -/
def Lenient (b : Board) : Prop :=
  ∀ l space, b.spaces.get? l = some space → ∀ i ∈ space.bonuses, i.SparesRating

theorem Lenient.placementBonuses (lenient : b.Lenient) (l : Location) :
    ∀ i ∈ b.placementBonuses l, i.SparesRating := by
  intro i hi
  obtain ⟨space, hs, printed⟩ | ⟨n, rfl⟩ := mem_placementBonuses hi
  · exact lenient l space hs i printed
  · exact ⟨by rintro ⟨⟩, by rintro ⟨⟩⟩

end Board

namespace Game

variable {g g' : Game} {o : Operation} {os : List Operation}

/-- Nobody owes anything, no production is below its floor, and no bonus of the board lowers a
rating. -/
structure Secure (g : Game) : Prop where
  floored : g.Floored
  covered : g.Covered
  lenient : g.board.Lenient

theorem Secure.undermines_eq_false (secure : g.Secure) (spares : o.sparesRating = true) :
    o.undermines g = false := by
  rw [← Bool.not_eq_true, Operation.undermines_iff]
  rintro ⟨p, q, read, hq, low⟩
  obtain ⟨type, -⟩ := Operation.command?_eq_raiseTerraformRating.1 read
  have raised : 0 ≤ o.count := by simpa [Operation.sparesRating, type] using spares
  have money := (Player.floored_iff.1 (secure.floored p q hq)).1
  omega

theorem Secure.execute (secure : g.Secure) (spares : o.sparesRating = true)
    (h : g.execute o = .accepted g') : g'.Secure := by
  obtain ⟨c, -, entered⟩ := execute_entered h
  refine ⟨?_, covered_execute secure.covered h, ?_⟩
  · exact (floored_execute_iff secure.floored h).2 (secure.undermines_eq_false spares)
  · intro l space hs
    rw [entered.spaces] at hs
    exact secure.lenient l space hs

theorem Secure.executeAll (secure : g.Secure) (spare : Sparing os)
    (h : g.executeAll os = .accepted g') : g'.Secure :=
  executeAll_keeps h (fun o ho _ _ secure first => secure.execute (spare o ho) first) secure

end Game

/-- The game that the attempt leads to is secure, and what it leaves open is lenient. -/
def Attempt.Secure : Attempt → Prop
  | unplayable _ => True
  | waiting _ remaining _ _ g => g.Secure ∧ ∀ i ∈ remaining, i.Lenient
  | complete _ g => g.Secure

theorem Attempt.Keeps.secure {a : Attempt} (keeps : a.Keeps Game.Secure Impact.SparesRating) :
    a.Secure := by
  cases a with
  | unplayable r => trivial
  | waiting ops remaining pending source g => exact keeps
  | complete ops g => exact keeps

/-- Impacts that spare ratings keep the game secure. -/
theorem Impact.secure_maintains : Maintains SparesRating Game.Secure where
  met := by
    intro g g' i actor source d cs secure spares hd accepted
    refine secure.executeAll ?_ accepted
    rcases d.leads_or_nil g.board cs with none | leads
    · rw [none]
      exact .nil
    · exact demand_spares spares hd _ leads
  reactions := by
    intro g g' i actor secure accepted
    exact secure.executeAll (g.preliminaries_reactionsToImpact actor i).sparing accepted
  bonuses l secure := secure.lenient.placementBonuses l

/-- **A resolution of lenient impacts** leaves the game secure. -/
theorem Impact.resolve_secure {actor : PlayerId} {source : Option Int} {cs : List Choice}
    {p : Progress} {queue : List Impact} {a : Attempt} (secure : p.game.Secure)
    (lenient : ∀ i ∈ queue, i.Lenient) (h : resolve actor source cs queue p = .ok a) : a.Secure :=
  (secure_maintains.resolve secure lenient h).secure

/-- **A turn** of which only lenient impacts are printed leaves the game secure. -/
theorem Game.Begins.secure {g : Game} {p : PlayerId} {cs : List Choice} {Printed : Impact → Prop}
    {a : Attempt} (begins : g.Begins p cs Printed a) (secure : g.Secure)
    (lenient : ∀ i, Printed i → i.Lenient) : a.Secure := by
  have onward : ∀ {ops g'}, Operation.Preliminaries ops → g.executeAll ops = .accepted g' → g'.Secure :=
    fun preliminaries accepted => secure.executeAll preliminaries.sparing accepted
  exact (begins.keeps Impact.secure_maintains onward lenient).secure

end Terraforming
