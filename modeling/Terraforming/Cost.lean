import Terraforming.Resource

/-!
# Costs

A cost is an amount in a cost class.  The building and space classes are megacredit costs that
steel or titanium may help to pay; every other class is paid from the one resource it names.
-/

namespace Terraforming

inductive CostClass where
  | megacredits
  | building
  | space
  | spaceOrBuilding
  | steel
  | titanium
  | plants
  | energy
  | heat
deriving DecidableEq, Repr

namespace CostClass

def word : CostClass → String
  | megacredits => "megacredits"
  | building => "building"
  | space => "space"
  | spaceOrBuilding => "space_or_building"
  | steel => "steel"
  | titanium => "titanium"
  | plants => "plants"
  | energy => "energy"
  | heat => "heat"

def all : List CostClass :=
  [megacredits, building, space, spaceOrBuilding, steel, titanium, plants, energy, heat]

instance : Vocabulary CostClass := ⟨all, word⟩

/-- The one resource a class is paid from; none for the classes that metal helps to pay. -/
def direct? : CostClass → Option Resource
  | megacredits => some .megacredits
  | steel => some .steel
  | titanium => some .titanium
  | plants => some .plants
  | energy => some .energy
  | heat => some .heat
  | building | space | spaceOrBuilding => none

/-- The class that is paid directly with `r`. -/
def ofResource : Resource → CostClass
  | .megacredits => megacredits
  | .steel => steel
  | .titanium => titanium
  | .plants => plants
  | .energy => energy
  | .heat => heat

@[simp] theorem direct?_ofResource (r : Resource) : (ofResource r).direct? = some r := by
  cases r <;> rfl

end CostClass

/-- An amount, never negative, in a cost class. -/
structure Cost where
  currency : CostClass
  amount : Nat
deriving DecidableEq, Repr

namespace Cost

def acceptsSteel (c : Cost) : Bool :=
  c.currency = .building || c.currency = .spaceOrBuilding

def acceptsTitanium (c : Cost) : Bool :=
  c.currency = .space || c.currency = .spaceOrBuilding

/-- The cost reduced by `discount`, never below nothing. -/
def discounted (c : Cost) (discount : Int) : Cost :=
  { c with amount := (c.amount - discount).toNat }

def megacredits (n : Nat) : Cost := ⟨.megacredits, n⟩

def building (n : Nat) : Cost := ⟨.building, n⟩

def space (n : Nat) : Cost := ⟨.space, n⟩

def spaceOrBuilding (n : Nat) : Cost := ⟨.spaceOrBuilding, n⟩

/-- A cost paid directly with `r`. -/
def of (r : Resource) (n : Nat) : Cost := ⟨.ofResource r, n⟩

end Cost

end Terraforming
