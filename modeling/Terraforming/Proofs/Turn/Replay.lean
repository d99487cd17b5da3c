import Mathlib.Logic.Relation
import Terraforming.Proofs.Turn.Beginnings

/-!
# The log replays

The log of a game is enough to play it again: the operations that a stretch of play adds to the
log, applied in order to the game before it, give the game after it in every field.

* `Game.Attempts` — the attempts that can be made in a game, one constructor for each way to make
  one; `Attempts.replays` says that each is the operations it names.
* `Game.Moves` — one step of play; `Moves.replays` says that each is the operations it logs.
* `Game.log_replays` — hence so is every run.
-/

namespace Terraforming

namespace Game

variable {g g' : Game} {p : PlayerId} {cs : List Choice} {a : Attempt}

/-! ## Attempts -/

/-- The attempts that can be made in a game, by every way to make one. -/
inductive Attempts (g : Game) : Attempt → Prop
  | playCard {p : PlayerId} {c : Card} {cs : List Choice} {a : Attempt} :
      g.playCard p c cs = .ok a → Attempts g a
  | performAction {p : PlayerId} {i : Option Int} {n : Int} {cs : List Choice} {a : Attempt} :
      g.performAction p i n cs = .ok a → Attempts g a
  | performProject {p : PlayerId} {project : StandardProject} {cs : List Choice} {a : Attempt} :
      g.performProject p project cs = .ok a → Attempts g a
  | claimMilestone {p : PlayerId} {name : Option String} {a : Attempt} :
      g.claimMilestoneTurn p name = .ok a → Attempts g a
  | fundAward {p : PlayerId} {name : Option String} {a : Attempt} :
      g.fundAwardTurn p name = .ok a → Attempts g a
  | takeTurn {p : PlayerId} {action : TurnAction} {cs : List Choice} {a : Attempt} :
      g.takeTurn p action cs = .ok a → Attempts g a
  | resolve {p : PlayerId} {impacts : List Impact} {cs : List Choice} {source : Option Int}
      {a : Attempt} : g.resolve p impacts cs source = .ok a → Attempts g a

/-- Every attempt begins as turns do. -/
theorem Attempts.begins (h : Attempts g a) : ∃ p cs Printed, g.Begins p cs Printed a := by
  cases h with
  | playCard h => exact ⟨_, _, _, playCard_begins h⟩
  | performAction h => exact ⟨_, _, _, performAction_begins h⟩
  | performProject h => exact ⟨_, _, _, performProject_begins h⟩
  | @claimMilestone p name a h =>
    exact ⟨p, [], fun _ => False, claimMilestoneTurn_begins h⟩
  | @fundAward p name a h => exact ⟨p, [], fun _ => False, fundAwardTurn_begins h⟩
  | takeTurn h => exact ⟨_, _, _, takeTurn_begins h⟩
  | resolve h => exact ⟨_, _, _, .resolved (underway_start g _) (fun _ hi => hi) h⟩

/-- A turn is the operations that it names. -/
theorem Begins.replays {Printed : Impact → Prop} (begins : g.Begins p cs Printed a) :
    a.Replays g := by
  cases begins with
  | refused r => exact Attempt.replays_unplayable g r
  | complete underway => exact underway.leads.complete
  | resolved underway _ resolved => exact Impact.resolve_replays underway.leads resolved

theorem Attempts.replays (h : Attempts g a) : a.Replays g := by
  obtain ⟨p, cs, Printed, begins⟩ := h.begins
  exact begins.replays

/-! ## Whole runs -/

/-- One step of play: an operation that is accepted, a purchase (which may be declined), the end of
a generation, or going over to the game that an attempt answers with. -/
inductive Moves : Game → Game → Prop
  | operation {g g' : Game} {o : Operation} : g.execute o = .accepted g' → Moves g g'
  | purchase {g g' : Game} {p : PlayerId} {cards : List Card} :
      g.purchase p cards = .ok (some g') → Moves g g'
  | declined {g : Game} {p : PlayerId} {cards : List Card} :
      g.purchase p cards = .ok none → Moves g g
  | advance {g g' : Game} : g.advance = .accepted g' → Moves g g'
  | attempt {g g' : Game} {a : Attempt} : Attempts g a → a.game? = some g' → Moves g g'

/-- Cards that are bought are bought by one operation. -/
theorem purchase_eq_some {cards : List Card} (h : g.purchase p cards = .ok (some g')) :
    g.execute (.purchaseCards p cards) = .accepted g' := by
  unfold purchase at h
  obtain ⟨q, -, h⟩ := bind_eq_ok.1 h
  split at h
  · cases h
  · obtain ⟨g₁, hg, h⟩ := bind_eq_ok.1 h
    cases h
    exact toExcept_eq_ok.1 hg

/-- A step of play is the operations that it logs. -/
theorem Moves.replays (h : Moves g g') : ∃ os, g.executeAll os = .accepted g' := by
  cases h with
  | operation h => exact ⟨_, executeAll_singleton h⟩
  | purchase h => exact ⟨_, executeAll_singleton (purchase_eq_some h)⟩
  | declined h => exact ⟨[], rfl⟩
  | advance h => exact ⟨_, h⟩
  | attempt h hg => exact ⟨_, h.replays g' hg⟩

/-- **The log replays.**  Whatever steps lead from one game to another, the log has gained a list
of operations that, applied to the first game, are all accepted and give the second.  Of a single
attempt, that list is the attempt's own. -/
theorem log_replays :
    (∀ g g' : Game, Relation.ReflTransGen Moves g g' →
      ∃ os, g'.log = g.log ++ os ∧ g.executeAll os = .accepted g') ∧
    ∀ (g g' : Game) (a : Attempt), Attempts g a → a.game? = some g' →
      g.executeAll a.operations = .accepted g' ∧ g'.log = g.log ++ a.operations := by
  constructor
  · intro g g' run
    obtain ⟨os, hos⟩ : ∃ os, g.executeAll os = .accepted g' := by
      induction run with
      | refl => exact ⟨[], rfl⟩
      | tail _ step ih =>
        obtain ⟨xs, hxs⟩ := ih
        obtain ⟨ys, hys⟩ := step.replays
        exact ⟨xs ++ ys, executeAll_trans hxs hys⟩
    exact ⟨os, log_executeAll hos, hos⟩
  · intro g g' a ha hg
    have accepted := ha.replays g' hg
    exact ⟨accepted, log_executeAll accepted⟩

/-- A game of one player who can pay for a power plant. -/
def solo : Game where
  board := .standard
  players := Table.ofList [(1, { id := 1, resources := Pool.zero.insert .megacredits 30 })]

/-- A power plant is built in `solo`, and the generation ends. -/
theorem log_replays_solo :
    ∃ a g₁ g₂, solo.takeTurn 1 (.standardProject .powerPlant) = .ok a ∧ a.game? = some g₁ ∧
      g₁.advance = .accepted g₂ ∧ solo.executeAll a.operations = .accepted g₁ ∧
      ∃ os, g₂.log = solo.log ++ os ∧ solo.executeAll os = .accepted g₂ := by
  have plays : ((solo.takeTurn 1 (.standardProject .powerPlant)).toOption.bind fun a =>
      a.game?.bind fun g₁ => g₁.advance.toExcept.toOption.map fun g₂ => (a, g₁, g₂)).isSome = true := by
    decide +kernel
  obtain ⟨_, h⟩ := Option.isSome_iff_exists.1 plays
  obtain ⟨a, ha, h⟩ := Option.bind_eq_some_iff.1 h
  obtain ⟨g₁, hg₁, h⟩ := Option.bind_eq_some_iff.1 h
  obtain ⟨g₂, hg₂, -⟩ := Option.map_eq_some_iff.1 h
  have taken : solo.takeTurn 1 (.standardProject .powerPlant) = .ok a := toOption_eq_some.1 ha
  have ended : g₁.advance = .accepted g₂ := toExcept_eq_ok.1 (toOption_eq_some.1 hg₂)
  have attempt : Attempts solo a := .takeTurn taken
  have run : Relation.ReflTransGen Moves solo g₂ :=
    .tail (.tail .refl (.attempt attempt hg₁)) (.advance ended)
  exact ⟨a, g₁, g₂, taken, hg₁, ended, (log_replays.2 solo g₁ a attempt hg₁).1,
    log_replays.1 solo g₂ run⟩

end Game

end Terraforming
