import Terraforming.Turn.Demand
import Terraforming.Turn.Reaction

/-!
# Resolving impacts

Impacts are resolved one after the other on the game as the earlier ones left it.  Each emits
operations, then the bonuses of the space it covered, then the reactions of passive effects.
Choices are used up in the order in which decisions come up; when they run out, the resolution
stops with the impacts that are left, and can be taken up again from there.
-/

namespace Terraforming

/-- A game on its way, and the operations that have taken it there. -/
structure Progress where
  game : Game
  operations : List Operation := []

/-- Apply operations and note them. -/
def Progress.emit (p : Progress) (ops : List Operation) : Except Fault Progress :=
  (p.game.executeAll ops).toExcept.map fun g => ⟨g, p.operations ++ ops⟩

/-- What became of a move. -/
inductive Attempt where
  /-- The rules do not permit it. -/
  | unplayable (r : Refusal)
  /-- A decision is missing: `remaining` impacts are left, the first of which waits for it. -/
  | waiting (operations : List Operation) (remaining : List Impact) (pending : Pending)
      (source : Option Int) (game : Game)
  | complete (operations : List Operation) (game : Game)

namespace Attempt

def statusWord : Attempt → String
  | unplayable _ => "unplayable"
  | waiting .. => "partially_playable"
  | complete .. => "playable"

def operations : Attempt → List Operation
  | unplayable _ => []
  | waiting ops .. => ops
  | complete ops _ => ops

/-- The game that the operations lead to. -/
def game? : Attempt → Option Game
  | unplayable _ => none
  | waiting _ _ _ _ g => some g
  | complete _ g => some g

end Attempt

namespace Impact

/-- Settle the bonuses of a placement.  A bonus that needs a decision uses the next choice; one
that finds none, or is not permitted, or offers options, is a fault.  Bonuses set off no
reactions. -/
def settleBonuses (actor : PlayerId) (source : Option Int) (cs : List Choice) :
    (bonuses : List Impact) → Progress → Except Fault (List Choice × Progress)
  | [], p => .ok (cs, p)
  | i :: is, p =>
    match i.demand p.game actor source with
    | .error f => .error f
    | .ok d =>
      match d.meet p.game.board cs with
      | .skipped => settleBonuses actor source cs is p
      | .performed ops =>
        match p.emit ops with
        | .error f => .error f
        | .ok p => settleBonuses actor source cs is p
      | .answered ops more rest _ =>
        match p.emit ops with
        | .error f => .error f
        | .ok p => settleBonuses actor source rest (more ++ is) p
      | .waiting _ | .refused _ | .replaced .. => .error (.undecidedBonus i.type)
termination_by bonuses => (cs.length, bonuses.length)

/-- Let the effects react to an impact that has happened. -/
def conclude (i : Impact) (actor : PlayerId) (p : Progress) : Except Fault Progress :=
  p.emit (p.game.reactionsToImpact actor i)

/-- Resolve a queue of impacts.  An option that is chosen takes the place of the impact that
offered it, and is a smaller tree. -/
def resolve (actor : PlayerId) (source : Option Int) (cs : List Choice) (queue : List Impact)
    (p : Progress) : Except Fault Attempt :=
  match queue with
  | [] => .ok (.complete p.operations p.game)
  | i :: is =>
    match i.demand p.game actor source with
    | .error f => .error f
    | .ok d =>
      match d.meet p.game.board cs with
      | .waiting options => .ok (.waiting p.operations (i :: is) ⟨i, options⟩ source p.game)
      | .refused r => .ok (.unplayable r)
      | .skipped => resolve actor source cs is p
      | .performed ops =>
        match p.emit ops >>= i.conclude actor with
        | .error f => .error f
        | .ok p => resolve actor source cs is p
      | .answered ops bonuses rest _ =>
        match p.emit ops >>= settleBonuses actor source rest bonuses with
        | .error f => .error f
        | .ok (rest, p) =>
          match i.conclude actor p with
          | .error f => .error f
          | .ok p => resolve actor source rest is p
      | .replaced j _ rest => resolve actor source rest (j :: is) p
termination_by sizeAll queue
decreasing_by
  all_goals simp only [sizeAll]
  all_goals first
    | exact Nat.lt_add_of_pos_left (size_pos i)
    | exact Nat.add_lt_add_right (size_lt_of_mem_options ‹_›) _

/-! ## Progress -/

/-- What is left when a decision is missing is no more than there was, and less if there was a
choice to use. -/
theorem sizeAll_remaining {actor : PlayerId} {source : Option Int} {cs : List Choice}
    {queue : List Impact} {p : Progress} {ops rest o s g}
    (h : resolve actor source cs queue p = .ok (.waiting ops rest o s g)) :
    sizeAll rest ≤ sizeAll queue ∧ (cs ≠ [] → sizeAll rest < sizeAll queue) := by
  fun_induction resolve actor source cs queue p with
  | case3 cs p i is d _ options waits =>
    simp only [Except.ok.injEq, Attempt.waiting.injEq] at h
    obtain ⟨-, rfl, -⟩ := h
    exact ⟨Nat.le_refl _, fun some => absurd (Demand.no_choice_of_waiting waits) some⟩
  | case5 cs p i is _ _ _ ih =>
    have := ih h
    have := size_eq i
    simp only [sizeAll]
    omega
  | case7 cs p i is _ _ _ _ p' _ ih =>
    have := ih h
    have := size_eq i
    simp only [sizeAll]
    omega
  | case10 cs p i is _ _ _ _ _ _ _ _ _ _ p' _ ih =>
    have := ih h
    have := size_eq i
    simp only [sizeAll]
    omega
  | case11 cs p i is _ _ j mem _ _ ih =>
    have := ih h
    have := size_lt_of_mem_options mem
    simp only [sizeAll] at *
    omega
  | case1 => simp at h
  | case2 => simp at h
  | case4 => simp at h
  | case6 => simp at h
  | case8 => simp at h
  | case9 => simp at h

end Impact

/-- Resolve loose impacts, such as those that were left when a decision was missing. -/
def Game.resolve (g : Game) (p : PlayerId) (impacts : List Impact) (choices : List Choice := [])
    (source : Option Int := none) : Except Fault Attempt :=
  Impact.resolve p source choices impacts ⟨g, []⟩

end Terraforming
