import Terraforming.Proofs.Game.Log
import Terraforming.Proofs.Turn.Outline

/-!
# What a resolution does not see

A resolution looks at a game through the demands of its impacts and the reactions of its effects,
and changes it by consequences.  So whatever these do not see, a resolution carries along unchanged.

* `Unseen` — a change of the game and of the noted operations that they do not see;
* `Unseen.settleBonuses`, `Unseen.resolve` — hence it makes no difference whether the change is made
  before or after a resolution.
-/

namespace Terraforming

/-- The progress with the game and the noted operations changed. -/
def Progress.carry (F : Game → Game) (G : List Operation → List Operation) (p : Progress) :
    Progress := ⟨F p.game, G p.operations⟩

/-- The attempt with its game and its operations changed. -/
def Attempt.carry (F : Game → Game) (G : List Operation → List Operation) : Attempt → Attempt
  | unplayable r => unplayable r
  | waiting ops remaining pending source g => waiting (G ops) remaining pending source (F g)
  | complete ops g => complete (G ops) (F g)

/-- Neither demands nor reactions see the changes, and consequences are carried out and noted alike
before and after. -/
structure Unseen (F : Game → Game) (G : List Operation → List Operation) : Prop where
  board : ∀ g, (F g).board = g.board
  demand : ∀ (i : Impact) g actor source, i.demand (F g) actor source = i.demand g actor source
  reactions : ∀ g actor i, (F g).reactionsToImpact actor i = g.reactionsToImpact actor i
  execute : ∀ g {o : Operation}, o.isConsequence = true →
    ((F g).execute o).toExcept = (g.execute o).toExcept.map F
  note : ∀ os {ops : List Operation}, Operation.Consequences ops → G (os ++ ops) = G os ++ ops

namespace Unseen

open Impact

variable {F : Game → Game} {G : List Operation → List Operation} {actor : PlayerId}
  {source : Option Int} {i : Impact} {cs rest : List Choice} {queue bonuses : List Impact}
  {p : Progress} {d : Demand i} {ops : List Operation}

theorem executeAll (unseen : Unseen F G) {g : Game} (follow : Operation.Consequences ops) :
    ((F g).executeAll ops).toExcept = (g.executeAll ops).toExcept.map F := by
  induction ops generalizing g with
  | nil => rfl
  | cons o ops ih =>
    rw [Game.toExcept_executeAll_cons, Game.toExcept_executeAll_cons,
      unseen.execute g (follow o List.mem_cons_self)]
    cases (g.execute o).toExcept with
    | error f => rfl
    | ok g₁ => exact ih fun o' ho' => follow o' (List.mem_cons_of_mem o ho')

theorem emit (unseen : Unseen F G) (p : Progress) (follow : Operation.Consequences ops) :
    (p.carry F G).emit ops = (p.emit ops).map (·.carry F G) := by
  rw [Progress.emit, Progress.emit, Progress.carry, unseen.executeAll follow]
  cases (p.game.executeAll ops).toExcept with
  | error f => rfl
  | ok g =>
    show Except.ok (Progress.mk (F g) (G p.operations ++ ops)) = .ok ⟨F g, G (p.operations ++ ops)⟩
    rw [unseen.note p.operations follow]

theorem demand_carry {r : Except Fault (Demand i)} (unseen : Unseen F G)
    (hd : i.demand p.game actor source = r) : i.demand (p.carry F G).game actor source = r :=
  (unseen.demand i p.game actor source).trans hd

theorem meet_carry (unseen : Unseen F G) (p : Progress) (cs : List Choice) (d : Demand i) :
    d.meet (p.carry F G).game.board cs = d.meet p.game.board cs :=
  congrArg (d.meet · cs) (unseen.board p.game)

theorem conclude (unseen : Unseen F G) (i : Impact) (p : Progress) :
    i.conclude actor (p.carry F G) = (i.conclude actor p).map (·.carry F G) := by
  rw [Impact.conclude, Impact.conclude, Progress.carry, unseen.reactions]
  exact unseen.emit p (p.game.consequences_reactionsToImpact actor i)

/-- What meeting a demand emits are consequences. -/
theorem consequences_of_performed (hd : i.demand p.game actor source = .ok d)
    (hm : d.meet p.game.board cs = .performed ops) : Operation.Consequences ops := by
  have follow := (demand_outline hd).meet p.game.board cs
  rwa [hm] at follow

theorem consequences_of_answered {used : rest.length < cs.length}
    (hd : i.demand p.game actor source = .ok d)
    (hm : d.meet p.game.board cs = .answered ops bonuses rest used) :
    Operation.Consequences ops := by
  have follow := (demand_outline hd).meet p.game.board cs
  rwa [hm] at follow

theorem settleBonuses (unseen : Unseen F G) :
    Impact.settleBonuses actor source cs bonuses (p.carry F G) =
      (Impact.settleBonuses actor source cs bonuses p).map fun e => (e.1, e.2.carry F G) := by
  fun_induction Impact.settleBonuses actor source cs bonuses p with
  | case1 cs p => rw [Impact.settleBonuses, Except.map]
  | case2 cs i is p f hd =>
    rw [Impact.settleBonuses]
    simp only [unseen.demand_carry hd, Except.map]
  | case3 cs i is p d hd hm ih =>
    rw [Impact.settleBonuses]
    simp only [unseen.demand_carry hd, unseen.meet_carry, hm, ih]
  | case4 cs i is p d hd ops hm f he =>
    rw [Impact.settleBonuses]
    simp only [unseen.demand_carry hd, unseen.meet_carry, hm,
      unseen.emit p (consequences_of_performed hd hm), he, Except.map]
  | case5 cs i is p d hd ops hm p₁ he ih =>
    rw [Impact.settleBonuses]
    simp only [unseen.demand_carry hd, unseen.meet_carry, hm,
      unseen.emit p (consequences_of_performed hd hm), he, Except.map]
    exact ih
  | case6 cs i is p d hd ops more rest used hm f he =>
    rw [Impact.settleBonuses]
    simp only [unseen.demand_carry hd, unseen.meet_carry, hm,
      unseen.emit p (consequences_of_answered hd hm), he, Except.map]
  | case7 cs i is p d hd ops more rest used hm p₁ he ih =>
    rw [Impact.settleBonuses]
    simp only [unseen.demand_carry hd, unseen.meet_carry, hm,
      unseen.emit p (consequences_of_answered hd hm), he, Except.map]
    exact ih
  | case8 cs i is p d hd options hm | case9 cs i is p d hd r hm | case10 cs i is p d hd j mem rest hm =>
    rw [Impact.settleBonuses]
    simp only [unseen.demand_carry hd, unseen.meet_carry, hm, Except.map]

theorem performed (unseen : Unseen F G) (follow : Operation.Consequences ops) :
    ((p.carry F G).emit ops >>= i.conclude actor) =
      (p.emit ops >>= i.conclude actor).map (·.carry F G) := by
  rw [unseen.emit p follow]
  cases p.emit ops with
  | error f => rfl
  | ok p₁ => exact unseen.conclude i p₁

theorem answered (unseen : Unseen F G) (follow : Operation.Consequences ops) :
    ((p.carry F G).emit ops >>= Impact.settleBonuses actor source rest bonuses) =
      (p.emit ops >>= Impact.settleBonuses actor source rest bonuses).map
        fun e => (e.1, e.2.carry F G) := by
  rw [unseen.emit p follow]
  cases p.emit ops with
  | error f => rfl
  | ok p₁ => exact unseen.settleBonuses

/-- What a resolution does not see it carries along. -/
theorem resolve (unseen : Unseen F G) :
    Impact.resolve actor source cs queue (p.carry F G) =
      (Impact.resolve actor source cs queue p).map (·.carry F G) := by
  fun_induction Impact.resolve actor source cs queue p with
  | case1 cs p =>
    rw [Impact.resolve]
    rfl
  | case2 cs p i is f hd =>
    rw [Impact.resolve]
    simp only [unseen.demand_carry hd, Except.map]
  | case3 cs p i is d hd options hm | case4 cs p i is d hd r hm =>
    rw [Impact.resolve]
    simp only [unseen.demand_carry hd, unseen.meet_carry, hm]
    rfl
  | case5 cs p i is d hd hm ih =>
    rw [Impact.resolve]
    simp only [unseen.demand_carry hd, unseen.meet_carry, hm, ih]
  | case6 cs p i is d hd ops hm f he =>
    rw [Impact.resolve]
    simp only [unseen.demand_carry hd, unseen.meet_carry, hm,
      unseen.performed (consequences_of_performed hd hm), he, Except.map]
  | case7 cs p i is d hd ops hm p₁ he ih =>
    rw [Impact.resolve]
    simp only [unseen.demand_carry hd, unseen.meet_carry, hm,
      unseen.performed (consequences_of_performed hd hm), he, Except.map]
    exact ih
  | case8 cs p i is d hd ops bonuses rest used hm f he =>
    rw [Impact.resolve]
    simp only [unseen.demand_carry hd, unseen.meet_carry, hm,
      unseen.answered (consequences_of_answered hd hm), he, Except.map]
  | case9 cs p i is d hd ops bonuses rest used hm rest' p₁ he f hc =>
    rw [Impact.resolve]
    simp only [unseen.demand_carry hd, unseen.meet_carry, hm,
      unseen.answered (consequences_of_answered hd hm), he, unseen.conclude, hc, Except.map]
  | case10 cs p i is d hd ops bonuses rest used hm rest' p₁ he p₂ hc ih =>
    rw [Impact.resolve]
    simp only [unseen.demand_carry hd, unseen.meet_carry, hm,
      unseen.answered (consequences_of_answered hd hm), he, unseen.conclude, hc, Except.map]
    exact ih
  | case11 cs p i is d hd j mem rest hm ih =>
    rw [Impact.resolve]
    simp only [unseen.demand_carry hd, unseen.meet_carry, hm]
    exact ih

end Unseen

end Terraforming
