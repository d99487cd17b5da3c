import Terraforming.Proofs.Game.Log
import Terraforming.Turn.Play

/-!
# The progress of a resolution

A resolution notes its operations as it goes on, and these lead from the game it started with to the
game as it stands (`Progress.From`).  `Impact.resolve_replays` carries this through every impact,
bonus and reaction.
-/

namespace Terraforming

/-- The operations noted so far lead from `g` to the game as it stands. -/
def Progress.From (p : Progress) (g : Game) : Prop := g.executeAll p.operations = .accepted p.game

/-- The operations of the attempt lead from `g` to the game it answers with. -/
def Attempt.Replays (a : Attempt) (g : Game) : Prop :=
  ∀ g', a.game? = some g' → g.executeAll a.operations = .accepted g'

namespace Progress

variable {g : Game} {p p' : Progress} {ops : List Operation}

theorem from_start (g : Game) : Progress.From { game := g } g := rfl

theorem emit_eq_ok :
    p.emit ops = .ok p' ↔
      p.game.executeAll ops = .accepted p'.game ∧ p'.operations = p.operations ++ ops := by
  unfold emit
  cases h : p.game.executeAll ops with
  | accepted g₁ =>
    simp only [Outcome.toExcept, Except.map, Except.ok.injEq, Outcome.accepted.injEq]
    constructor
    · rintro rfl
      exact ⟨rfl, rfl⟩
    · rintro ⟨rfl, hops⟩
      rw [← hops]
  | refused f g₁ => simp [Outcome.toExcept, Except.map]

theorem From.emit (hp : p.From g) (h : p.emit ops = .ok p') : p'.From g := by
  obtain ⟨hg, hops⟩ := emit_eq_ok.1 h
  rw [From, hops]
  exact Game.executeAll_trans hp hg

theorem From.complete (hp : p.From g) : (Attempt.complete p.operations p.game).Replays g := by
  intro g' h
  cases h
  exact hp

end Progress

theorem Attempt.replays_unplayable (g : Game) (r : Refusal) : (unplayable r).Replays g := by
  intro g' h
  cases h

namespace Impact

variable {g : Game} {actor : PlayerId} {source : Option Int} {cs rest : List Choice}

theorem from_settleBonuses {bonuses : List Impact} {p p' : Progress} (hp : p.From g)
    (h : settleBonuses actor source cs bonuses p = .ok (rest, p')) : p'.From g := by
  fun_induction settleBonuses actor source cs bonuses p with
  | case1 cs p =>
    cases h
    exact hp
  | case3 cs p i is d hd hm ih => exact ih hp h
  | case5 cs p i is d hd ops hm p₁ he ih => exact ih (hp.emit he) h
  | case7 cs p i is d hd ops more rest' used hm p₁ he ih => exact ih (hp.emit he) h
  | _ => cases h

/-- Whatever comes of a queue of impacts, the operations say how. -/
theorem resolve_replays {queue : List Impact} {p : Progress} {a : Attempt} (hp : p.From g)
    (h : resolve actor source cs queue p = .ok a) : a.Replays g := by
  fun_induction resolve actor source cs queue p with
  | case1 cs p =>
    cases h
    exact hp.complete
  | case3 cs p i is d hd options hm =>
    cases h
    intro g' hg
    cases hg
    exact hp
  | case4 cs p i is d hd r hm =>
    cases h
    exact Attempt.replays_unplayable g r
  | case5 cs p i is d hd hm ih => exact ih hp h
  | case7 cs p i is d hd ops hm p₂ he ih =>
    obtain ⟨p₁, ho, hc⟩ := bind_eq_ok.1 he
    exact ih ((hp.emit ho).emit hc) h
  | case10 cs p i is d hd ops bonuses rest used hm rest' p₂ he p₃ hc ih =>
    obtain ⟨p₁, ho, hb⟩ := bind_eq_ok.1 he
    exact ih ((from_settleBonuses (hp.emit ho) hb).emit hc) h
  | case11 cs p i is d hd j mem rest hm ih => exact ih hp h
  | _ => cases h

end Impact

end Terraforming
