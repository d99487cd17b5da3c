import Terraforming.Proofs.Game.Inventory
import Terraforming.Proofs.Turn.Decisions
import Terraforming.Proofs.Turn.Replay

/-!
# Turns and the inventory

No turn buys cards: whatever is played, used, built, claimed or funded, and whatever is decided on
the way, the game that an attempt leads to has the cards that there were.

* `Game.Attempts.inventory` — every attempt, by every way to make one;
* `Game.Proceeds` — one step of play without a purchase, and what a run of them keeps
  (`Game.inventory_proceeds`).
-/

namespace Terraforming

/-! ## Operations that are no purchases -/

theorem Operation.Preliminaries.unbought {os : List Operation} (h : Preliminaries os) :
    Unbought os := by
  intro o ho purchase
  have preliminary := h o ho
  rw [isPreliminary, purchase] at preliminary
  cases preliminary

/-! ## The invariant of a turn -/

/-- The game that the attempt leads to has the cards of `g`. -/
def Attempt.KeepsInventory (a : Attempt) (g : Game) : Prop :=
  ∀ g', a.game? = some g' → g'.inventory = g.inventory

theorem Attempt.KeepsInventory.unplayable (r : Refusal) (g : Game) :
    (Attempt.unplayable r).KeepsInventory g := by
  intro g' h
  cases h

theorem Progress.keepsInventory_complete {p : Progress} {g : Game}
    (kept : p.game.inventory = g.inventory) :
    (Attempt.complete p.operations p.game).KeepsInventory g := by
  intro g' h
  cases h
  exact kept

theorem Impact.keepsInventory_resolve {actor : PlayerId} {source : Option Int} {cs : List Choice}
    {queue : List Impact} {p : Progress} {a : Attempt} {g : Game}
    (kept : p.game.inventory = g.inventory) (h : resolve actor source cs queue p = .ok a) :
    a.KeepsInventory g :=
  fun _ hg => (resolve_keepsCards h hg).inventory.trans kept

namespace Game

variable {g g' : Game} {p : PlayerId} {cs : List Choice} {a : Attempt}

/-- **No turn buys cards.** -/
theorem Begins.keepsInventory {Printed : Impact → Prop} (begins : g.Begins p cs Printed a) :
    a.KeepsInventory g := by
  have onward : ∀ {started : Progress}, g.Underway p started →
      started.game.inventory = g.inventory := by
    intro started underway
    have kept := inventory_executeAll (g := g) underway.preliminaries.unbought
    rwa [underway.leads] at kept
  cases begins with
  | refused r => exact .unplayable r g
  | complete underway => exact Progress.keepsInventory_complete (onward underway)
  | resolved underway _ resolved => exact Impact.keepsInventory_resolve (onward underway) resolved

theorem Attempts.inventory (h : Attempts g a) : a.KeepsInventory g := by
  obtain ⟨p, cs, Printed, begins⟩ := h.begins
  exact begins.keepsInventory

/-! ## Runs -/

/-- One step of play without a purchase: an operation, which may be refused; going over to the game
that an attempt leads to, also one that waits for a decision or takes another up; the end of a
generation, which may fail half way. -/
inductive Proceeds : Game → Game → Prop
  | operation {g : Game} {o : Operation} : o.type ≠ .purchaseCards → Proceeds g (g.execute o).game
  | attempt {g g' : Game} {a : Attempt} : Attempts g a → a.game? = some g' → Proceeds g g'
  | advance {g : Game} : Proceeds g g.advance.game

theorem unbought_generationEnd (g : Game) : Operation.Unbought g.generationEnd :=
  g.forall_generationEnd (fun _ => nofun) nofun nofun

theorem Proceeds.inventory (h : Proceeds g g') : g'.inventory = g.inventory := by
  cases h with
  | operation unbought => exact inventory_execute unbought
  | attempt h hg => exact h.inventory g' hg
  | advance => exact inventory_executeAll g.unbought_generationEnd

/-- Play without purchases keeps the cards. -/
theorem inventory_proceeds (run : Relation.ReflTransGen Proceeds g g') :
    g'.inventory = g.inventory := by
  induction run with
  | refl => rfl
  | tail _ step ih => exact step.inventory.trans ih

end Game

end Terraforming
