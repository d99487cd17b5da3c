import Terraforming.Data.Table
import Terraforming.Data.Vocabulary

/-!
# Resources

Two families: the standard resources of a player's pool, of which everyone has a balance and a
production, and the resources that sit on one played card.  A `Pool` says how much there is of
each standard resource; one that it does not mention counts as nothing.
-/

namespace Terraforming

/-! ## Standard resources -/

inductive Resource where
  | megacredits
  | steel
  | titanium
  | plants
  | energy
  | heat
deriving DecidableEq, Repr

namespace Resource

def word : Resource → String
  | megacredits => "megacredits"
  | steel => "steel"
  | titanium => "titanium"
  | plants => "plants"
  | energy => "energy"
  | heat => "heat"

/-- Every standard resource, in the order in which pools are read and paid from. -/
def all : List Resource := [megacredits, steel, titanium, plants, energy, heat]

instance : Vocabulary Resource := ⟨all, word⟩

def rank : Resource → Nat
  | megacredits => 0
  | steel => 1
  | titanium => 2
  | plants => 3
  | energy => 4
  | heat => 5

theorem rank_inj {a b : Resource} (h : a.rank = b.rank) : a = b := by
  cases a <;> cases b <;> first | rfl | simp [rank] at h

instance : Ord Resource := ⟨compareOn rank⟩

instance : Std.TransOrd Resource := inferInstanceAs (Std.TransCmp (compareOn rank))

instance : Std.LawfulEqOrd Resource where
  eq_of_compare h := rank_inj (Std.LawfulEqOrd.eq_of_compare (α := Nat) h)

end Resource

/-! ## Card resources -/

inductive CardResource where
  | microbe
  | plant
  | animal
  | science
  | fighter
deriving DecidableEq, Repr

namespace CardResource

def word : CardResource → String
  | microbe => "microbe"
  | plant => "plant"
  | animal => "animal"
  | science => "science"
  | fighter => "fighter"

def all : List CardResource := [microbe, plant, animal, science, fighter]

instance : Vocabulary CardResource := ⟨all, word⟩

/-- The place of a kind in alphabetical order, which listings of card resources follow. -/
def rank : CardResource → Nat
  | animal => 0
  | fighter => 1
  | microbe => 2
  | plant => 3
  | science => 4

theorem rank_inj {a b : CardResource} (h : a.rank = b.rank) : a = b := by
  cases a <;> cases b <;> first | rfl | simp [rank] at h

instance : Ord CardResource := ⟨compareOn rank⟩

instance : Std.TransOrd CardResource := inferInstanceAs (Std.TransCmp (compareOn rank))

instance : Std.LawfulEqOrd CardResource where
  eq_of_compare h := rank_inj (Std.LawfulEqOrd.eq_of_compare (α := Nat) h)

end CardResource

/-! ## Pools -/

/-- An amount of each standard resource. -/
abbrev Pool := Table Resource Int

namespace Pool

/-- How much the pool holds of `r`. -/
def amount (p : Pool) (r : Resource) : Int := p.getD r 0

/-- The pool that mentions every resource and holds nothing. -/
def zero : Pool := Table.ofList (Resource.all.map fun r => (r, 0))

end Pool

end Terraforming
