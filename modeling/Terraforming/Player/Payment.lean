import Terraforming.Player.Basic

/-!
# Paying

Which resources a player spends on a cost.  Metals go first, titanium before steel, as many as fit
without overpaying, and megacredits cover the rest; when these fall short, one more unit of metal
may overpay.  `Player.canPlay` puts this together with the discounts and the requirements of a
card.
-/

namespace Terraforming.Player

/-! ## Costs of cards -/

/-- What an effect takes off the price of a card. -/
def discountOf (c : Card) (e : Effect) : Int :=
  match e.type with
  | .anyCardDiscount => e.count
  | .cardDiscountForTag => if e.tag.any c.hasTag then e.count else 0
  | _ => 0

def discount (p : Player) (c : Card) : Int :=
  total ((p.effects.map (·.effect) ++ p.nextCardEffects).map (discountOf c))

/-- The printed cost minus every discount that applies. -/
def effectiveCost (p : Player) (c : Card) : Cost := c.cost.discounted (p.discount c)

/-! ## Payments -/

/-- The metals that help to pay a cost, with their values, in the order of use. -/
def metals (p : Player) (c : Cost) : List (Resource × Int) :=
  (if c.acceptsTitanium then [(.titanium, p.titaniumValue)] else []) ++
    (if c.acceptsSteel then [(.steel, p.steelValue)] else [])

/-- Spend metals on what remains of a cost, without overpaying: what is spent, and what remains
then. -/
def spendMetals (p : Player) : List (Resource × Int) → Pool → Int → Except Fault (Pool × Int)
  | [], spent, remaining => .ok (spent, remaining)
  | (metal, value) :: rest, spent, remaining =>
    if value = 0 then .error .zeroDivisor
    else
      let used := min (p.balance (some metal)) (Int.fdiv remaining value)
      if used = 0 then p.spendMetals rest spent remaining
      else p.spendMetals rest (spent.insert metal used) (remaining - used * value)

/-- Cover what remains with megacredits. -/
def settle (p : Player) (spent : Pool) (remaining : Int) : Option Pool :=
  if p.balance (some .megacredits) < remaining then none
  else some (if remaining = 0 then spent else spent.insert .megacredits remaining)

/-- A way to pay a cost, or nothing if there is none. -/
def paymentFor (p : Player) (c : Cost) : Except Fault (Option Pool) :=
  match c.currency.direct? with
  | some r =>
    .ok (if p.balance (some r) < c.amount then none
      else if c.amount = 0 then some ∅
      else some (Table.ofList [(r, (c.amount : Int))]))
  | none => do
    let (spent, remaining) ← p.spendMetals (p.metals c) ∅ c.amount
    if remaining ≤ p.balance (some .megacredits) then return p.settle spent remaining
    match (p.metals c).find? fun m => spent.amount m.1 < p.balance (some m.1) with
    | none => return none
    | some (metal, value) =>
      return p.settle (spent.insert metal (spent.amount metal + 1)) (max 0 (remaining - value))

def canAfford (p : Player) (c : Cost) : Except Fault Bool := do
  return (← p.paymentFor c).isSome

end Terraforming.Player
