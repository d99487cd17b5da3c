import Terraforming.Proofs.Turn.Blocks

/-!
# How resolutions end

A resolution answers, or it fails where it works out a demand or emits operations.  What holds of the
games on the way, and what can be said of the fault, is seen from a single impact: it is enough that the
impact goes on to a game of the same kind or fails in a permitted way, and that the reactions to it do
(`Impact.Tolerates`).

* `Impact.Tolerates.settleBonuses`, `Impact.Tolerates.resolve` — the whole recursion, once for all
  properties of games and of faults.
-/

namespace Terraforming

/-! ## Sorts of impacts -/

/-- An impact is of some sort, and so is every option that it offers, however deep. -/
def Impact.Throughout (Q : Impact → Prop) (i : Impact) : Prop := ∀ j ∈ i.walk, Q j

theorem Impact.Throughout.here {Q : Impact → Prop} {i : Impact} (h : i.Throughout Q) : Q i :=
  h i i.mem_walk_self

theorem Impact.Throughout.option {Q : Impact → Prop} {i j : Impact} (h : i.Throughout Q)
    (hj : j ∈ i.options) : j.Throughout Q :=
  fun k hk => h k (walk_subset_of_mem_options hj hk)

/-- The game that the attempt leads to has the property, and what it leaves open is of the sort. -/
def Attempt.Keeps (P : Game → Prop) (Q : Impact → Prop) : Attempt → Prop
  | unplayable _ => True
  | waiting _ remaining _ _ g => P g ∧ ∀ i ∈ remaining, i.Throughout Q
  | complete _ g => P g

theorem Attempt.Keeps.game {P : Game → Prop} {Q : Impact → Prop} {a : Attempt} {g : Game}
    (keeps : a.Keeps P Q) (hg : a.game? = some g) : P g := by
  cases a with
  | unplayable r => cases hg
  | waiting ops remaining pending source g₁ =>
    cases hg
    exact keeps.1
  | complete ops g₁ =>
    cases hg
    exact keeps

/-! ## The recursion -/

variable {P : Game → Prop} {F : Fault → Prop}

theorem Progress.emit_gives {p : Progress} {ops : List Operation}
    (h : Gives (p.game.executeAll ops).toExcept P F) : Gives (p.emit ops) (P ·.game) F :=
  .map h

namespace Impact

/-- In games with `P`, what impacts of the sort `S` come to, and the reactions to them, leads to such games
or fails with `F`, as does working out what they demand; and the bonuses that they bring are of the
sort. -/
structure Tolerates (actor : PlayerId) (source : Option Int) (P : Game → Prop) (S : Impact → Prop)
    (F : Fault → Prop) : Prop where
  demand {g : Game} {i : Impact} {f : Fault} : P g → S i → i.demand g actor source = .error f → F f
  impact {g : Game} {i : Impact} {answer : List Choice} {ops : List Operation} {more : List Impact} :
    P g → S i → i.Does actor source g answer ops more →
      Gives (g.executeAll ops).toExcept P F ∧ ∀ j ∈ more, S j
  reactions {g : Game} (i : Impact) : P g →
    Gives (g.executeAll (g.reactionsToImpact actor i)).toExcept P F
  undecided (t : ImpactType) : F (.undecidedBonus t)

namespace Tolerates

variable {S : Impact → Prop} {actor : PlayerId} {source : Option Int} {p : Progress} {i : Impact}
  {cs : List Choice} {ops : List Operation} {bonuses queue : List Impact} {d : Demand i}

/-- What is emitted when a demand is met without an answer, -/
theorem performed (t : Tolerates actor source P S F) (start : P p.game) (sort : S i)
    (hd : i.demand p.game actor source = .ok d) (hm : d.meet p.game.board cs = .performed ops) :
    Gives (p.emit ops) (P ·.game) F :=
  Progress.emit_gives (t.impact start sort ⟨d, hd, Demand.yields_of_performed hm⟩).1

/-- and with one. -/
theorem answered {rest : List Choice} {used : rest.length < cs.length} (t : Tolerates actor source P S F)
    (start : P p.game) (sort : S i) (hd : i.demand p.game actor source = .ok d)
    (hm : d.meet p.game.board cs = .answered ops bonuses rest used) :
    Gives (p.emit ops) (P ·.game) F ∧ ∀ j ∈ bonuses, S j := by
  obtain ⟨c, -, yields⟩ := Demand.yields_of_answered hm
  obtain ⟨gives, more⟩ := t.impact start sort ⟨d, hd, yields⟩
  exact ⟨Progress.emit_gives gives, more⟩

/-- **Bonuses**, and those that they bring. -/
theorem settleBonuses (t : Tolerates actor source P S F) (start : P p.game) (sort : ∀ i ∈ bonuses, S i) :
    Gives (settleBonuses actor source cs bonuses p) (P ·.2.game) F := by
  fun_induction Impact.settleBonuses actor source cs bonuses p with
  | case1 cs p => exact start
  | case2 cs i is p f hd => exact t.demand start (List.forall_mem_cons.1 sort).1 hd
  | case3 cs i is p d hd hm ih => exact ih start (List.forall_mem_cons.1 sort).2
  | case4 cs i is p d hd ops hm f he =>
    exact (t.performed start (List.forall_mem_cons.1 sort).1 hd hm).fails he
  | case5 cs i is p d hd ops hm p₁ he ih =>
    obtain ⟨first, later⟩ := List.forall_mem_cons.1 sort
    exact ih ((t.performed start first hd hm).holds he) later
  | case6 cs i is p d hd ops more rest used hm f he =>
    exact (t.answered start (List.forall_mem_cons.1 sort).1 hd hm).1.fails he
  | case7 cs i is p d hd ops more rest used hm p₁ he ih =>
    obtain ⟨first, later⟩ := List.forall_mem_cons.1 sort
    obtain ⟨gives, more⟩ := t.answered start first hd hm
    exact ih (gives.holds he) (List.forall_mem_append.2 ⟨more, later⟩)
  | _ => exact t.undecided _

theorem conclude (t : Tolerates actor source P S F) (start : P p.game) (i : Impact) :
    Gives (i.conclude actor p) (P ·.game) F :=
  Progress.emit_gives (t.reactions i start)

/-- **A resolution**, and what it leaves open. -/
theorem resolve (t : Tolerates actor source P S F) (start : P p.game)
    (sort : ∀ i ∈ queue, i.Throughout S) : Gives (resolve actor source cs queue p) (·.Keeps P S) F := by
  fun_induction Impact.resolve actor source cs queue p with
  | case1 cs p => exact start
  | case2 cs p i is f hd => exact t.demand start (List.forall_mem_cons.1 sort).1.here hd
  | case3 cs p i is d hd options hm => exact ⟨start, sort⟩
  | case4 cs p i is d hd r hm => trivial
  | case5 cs p i is d hd hm ih => exact ih start (List.forall_mem_cons.1 sort).2
  | case6 cs p i is d hd ops hm f he =>
    have emits := t.performed start (List.forall_mem_cons.1 sort).1.here hd hm
    exact (emits.bind fun p₁ after => t.conclude after i).fails he
  | case7 cs p i is d hd ops hm p₁ he ih =>
    obtain ⟨first, later⟩ := List.forall_mem_cons.1 sort
    have emits := t.performed start first.here hd hm
    exact ih ((emits.bind fun p₁ after => t.conclude after i).holds he) later
  | case8 cs p i is d hd ops bonuses rest used hm f he =>
    obtain ⟨emits, bonuses⟩ := t.answered start (List.forall_mem_cons.1 sort).1.here hd hm
    exact (emits.bind fun p₁ after => t.settleBonuses after bonuses).fails he
  | case9 cs p i is d hd ops bonuses rest used hm rest' p₁ he f hc =>
    obtain ⟨emits, bonuses⟩ := t.answered start (List.forall_mem_cons.1 sort).1.here hd hm
    have settled := (emits.bind fun p₁ after => t.settleBonuses after bonuses).holds he
    exact (t.conclude settled i).fails hc
  | case10 cs p i is d hd ops bonuses rest used hm rest' p₁ he p₂ hc ih =>
    obtain ⟨first, later⟩ := List.forall_mem_cons.1 sort
    obtain ⟨emits, bonuses⟩ := t.answered start first.here hd hm
    have settled := (emits.bind fun p₁ after => t.settleBonuses after bonuses).holds he
    exact ih ((t.conclude settled i).holds hc) later
  | case11 cs p i is d hd j mem rest hm ih =>
    obtain ⟨first, later⟩ := List.forall_mem_cons.1 sort
    exact ih start (List.forall_mem_cons.2 ⟨first.option mem, later⟩)

end Tolerates

end Impact

end Terraforming
