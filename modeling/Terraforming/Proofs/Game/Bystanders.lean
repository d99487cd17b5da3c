import Terraforming.Proofs.Game.Marks

/-!
# Bystanders

Whoever an operation is not about is left alone by it: hand, cards in play, balances and all else
are as they were.  The one exception is the operation that gives everybody back the actions of their
cards.

* `Game.run_bystander` — every command;
* `Game.execute_bystander`, `Game.executeAll_bystander` — hence operations that are accepted.
-/

namespace Terraforming

namespace Operation

/-- The operation is about somebody else, or about nobody. -/
structure Passes (r : PlayerId) (o : Operation) : Prop where
  apart : o.player ≠ some r
  kept : o.type ≠ .resetCardActions

theorem Passes.command {r : PlayerId} {o : Operation} {c : Command} (passes : o.Passes r)
    (read : o.command? = .ok c) : c.player? ≠ some r ∧ c ≠ .resetCardActions := by
  refine ⟨fun about => passes.apart (player_of_command? read about), ?_⟩
  rintro rfl
  exact passes.kept (List.mem_singleton.1 (type_of_command? read))

end Operation

/-- Of a player something becomes only by commands that are about them. -/
theorem Player.Becomes.player? {p : PlayerId} {q q' : Player} {c : Command}
    (becomes : q.Becomes p c q') : c.player? = some p := by
  cases becomes <;> rfl

namespace Game

variable {g g' : Game} {c : Command} {o : Operation} {p r : PlayerId} {q q' : Player}

theorem player?_withPlayer_of_ne (other : p ≠ r) : (g.withPlayer p q').player? r = g.player? r := by
  rw [player?_withPlayer, if_neg other.symm]

/-- **A command** that is not about a player, and does not give back the actions of all cards, leaves
the player alone. -/
theorem run_bystander (apart : c.player? ≠ some r) (kept : c ≠ .resetCardActions)
    (h : g.run c = .ok g') : g'.player? r = g.player? r := by
  have other : ∀ p, c.player? = some p → p ≠ r := fun p about same => apart (same ▸ about)
  cases run_iff.1 h with
  | alone _ becomes => exact player?_withPlayer_of_ne (other _ becomes.player?)
  | dealt | reshuffled => exact player?_withPlayer_of_ne (other _ rfl)
  | discarded hq =>
    exact discardAll_keeps (I := fun h => h.player? r = g.player? r) _ hq
      (fun _ _ _ _ _ same => (player?_withPlayer_of_ne (other _ rfl)).trans same) rfl
  | untapped => exact absurd rfl kept
  | _ => rfl

theorem execute_bystander (passes : o.Passes r) (h : g.execute o = .accepted g') :
    g'.player? r = g.player? r := by
  obtain ⟨c, g₁, read, carried, rfl⟩ := execute_eq_accepted.1 h
  obtain ⟨apart, kept⟩ := passes.command read
  exact (run_bystander apart kept carried : g₁.player? r = g.player? r)

theorem executeAll_bystander {os : List Operation} (passes : ∀ o ∈ os, o.Passes r)
    (h : g.executeAll os = .accepted g') : g'.player? r = g.player? r :=
  executeAll_keeps (I := fun g' => g'.player? r = g.player? r) h
    (fun o ho _ _ same first => (execute_bystander (passes o ho) first).trans same) rfl

end Game

end Terraforming
