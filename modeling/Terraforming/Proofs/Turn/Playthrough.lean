import Terraforming.Proofs.Turn.Charges
import Terraforming.Proofs.Turn.Session

/-!
# Play from any game

From any game, with any cards, play goes on by turns of any player, attempts that are taken up again,
purchases and ends of generations, in any order; an end that is refused half way stays where it is.
Whatever happens, the log gains one stretch of operations after the other, and a stretch takes at most one
card into play, with everything that goes with it (`Game.Stretch`).

* `Game.Playthrough` — the games that play can lead to, with the attempts that were left open on the way;
* `Game.Playthrough.logs` — what one stretch preserves, play preserves.
-/

namespace Terraforming

open Operation (Aside)

namespace Game

variable {g g' g₀ : Game} {p : PlayerId} {cs : List Choice} {a : Attempt} {left : List OpenAttempt}

/-! ## Stretches -/

/-- What one step of play adds to the log: a card that comes into play, from the payment to the change of
production, and then operations that bring nothing into play; or such operations only. -/
inductive Stretch (g : Game) : List Operation → Prop where
  | entry {p : PlayerId} {q : Player} {c : Card} {payment : Pool} {rest : List Operation} :
      g.player? p = some q → Aside rest → Stretch g (entryOps p q c payment ++ rest)
  | aside {os : List Operation} : Aside os → Stretch g os

/-- **Every turn** adds a stretch. -/
theorem takeTurn_stretch {action : TurnAction} (h : g.takeTurn p action cs = .ok a)
    (hg : a.game? = some g') : g.Stretch a.operations := by
  cases takeTurn_cases h with
  | card _ _ h =>
    obtain ⟨q, payment, rest, hq, -, operations, aside⟩ := playCard_charges h hg
    exact operations ▸ .entry hq aside
  | inPlay _ h =>
    obtain ⟨q, i, d, action, price, rest, -, -, -, -, charges, operations, aside⟩ :=
      performAction_charges h hg
    exact operations ▸ .aside (.cons rfl (charges.aside.append aside))
  | project _ _ h =>
    obtain ⟨q, payment, rest, -, -, operations, aside⟩ := performProject_charges h hg
    exact operations ▸ .aside ((aside_paymentOps p payment).append aside)
  | milestone _ h =>
    rw [claimMilestoneTurn_charges h hg]
    exact .aside (.cons rfl (.singleton rfl))
  | award _ h =>
    rw [fundAwardTurn_charges h hg]
    exact .aside (.cons rfl (.singleton rfl))
  | pass => exact .aside .nil

/-- So do impacts that are taken up again. -/
theorem resume_stretch {o : OpenAttempt} (h : o.resume g cs = .ok a) (hg : a.game? = some g') :
    g.Stretch a.operations := by
  obtain ⟨rest, operations, aside⟩ := Impact.resolve_aside h hg
  exact operations ▸ .aside aside

/-! ## Play -/

/-- The games that play from `g₀` can lead to, each with the attempts left open on the way. -/
inductive Playthrough (g₀ : Game) : Game → List OpenAttempt → Prop
  | start : Playthrough g₀ g₀ []
  /-- Going over to the game that a turn action answers with, complete or not. -/
  | turn {g g' : Game} {left : List OpenAttempt} {p : PlayerId} {action : TurnAction}
      {cs : List Choice} {a : Attempt} : Playthrough g₀ g left → g.takeTurn p action cs = .ok a →
      a.game? = some g' → Playthrough g₀ g' (left ++ a.leftOpen p)
  /-- Taking up an attempt that was left open, now or earlier. -/
  | resumption {g g' : Game} {left : List OpenAttempt} {o : OpenAttempt} {cs : List Choice}
      {a : Attempt} : Playthrough g₀ g left → o ∈ left → o.resume g cs = .ok a →
      a.game? = some g' → Playthrough g₀ g' (left ++ a.leftOpen o.player)
  | purchase {g g' : Game} {left : List OpenAttempt} {p : PlayerId} {cards : List Card} :
      Playthrough g₀ g left → g.purchase p cards = .ok (some g') → Playthrough g₀ g' left
  | generationEnd {g : Game} {left : List OpenAttempt} : Playthrough g₀ g left →
      Playthrough g₀ g.advance.game left

/-- **Induction over play**, stretch by stretch: what holds at the beginning and is carried from every
stretch to the next holds of the game and of all that the log has gained. -/
theorem Playthrough.logs {I : Game → List Operation → Prop} (play : Playthrough g₀ g left)
    (start : I g₀ [])
    (step : ∀ {g g' os ops}, I g os → g.Stretch ops → g.executeAll ops = .accepted g' →
      I g' (os ++ ops)) :
    ∃ os, g.log = g₀.log ++ os ∧ I g os := by
  -- one step, once for all kinds of steps
  have go : ∀ {g g' : Game} {ops : List Operation}, (∃ os, g.log = g₀.log ++ os ∧ I g os) →
      g.Stretch ops → g.executeAll ops = .accepted g' → ∃ os, g'.log = g₀.log ++ os ∧ I g' os := by
    rintro g g' ops ⟨os, logged, holds⟩ stretch accepted
    refine ⟨os ++ ops, ?_, step holds stretch accepted⟩
    rw [log_executeAll accepted, logged, List.append_assoc]
  induction play with
  | start => exact ⟨[], (List.append_nil _).symm, start⟩
  | turn _ taken hg ih =>
    exact go ih (takeTurn_stretch taken hg) ((Attempts.takeTurn taken).replays _ hg)
  | resumption _ _ resumed hg ih =>
    exact go ih (resume_stretch resumed hg) ((Attempts.resolve resumed).replays _ hg)
  | purchase _ bought ih =>
    exact go ih (.aside (.singleton rfl)) (executeAll_singleton (purchase_eq_some bought))
  | @generationEnd g left _ ih =>
    obtain ⟨os, among, accepted⟩ := g.exists_advance
    exact go ih (.aside fun o ho => g.aside_generationEnd o (among.subset ho)) accepted

end Game

end Terraforming
