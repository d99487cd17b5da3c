import Terraforming.Turn.Play

/-!
# Branching over decisions

Every way of carrying out one play: wherever a decision is missing, each legal answer is tried in
turn.  The tree of answers is finite, because taking a resolution up again with an answer leaves
fewer impacts to resolve.
-/

namespace Terraforming

/-- The ways of carrying out a play that were found, and how many attempts that took. -/
structure Branches where
  found : List Progress := []
  attempts : Nat := 0

namespace Branches

def append (a b : Branches) : Branches := ⟨a.found ++ b.found, a.attempts + b.attempts⟩

/-- The branches of a list, one after the other. -/
def join (bs : List Branches) : Branches :=
  ⟨bs.flatMap (·.found), total (bs.map (·.attempts))⟩

end Branches

namespace Attempt

/-- How far an attempt is from its end: nothing when it has ended, and otherwise more than the size
of what is left to resolve. -/
def distance : Attempt → Nat
  | waiting _ rest _ _ _ => Impact.sizeAll rest + 1
  | _ => 0

/-- Answering brings an attempt nearer to its end. -/
theorem distance_lt {p : PlayerId} {source : Option Int} {c : Choice} {cs : List Choice}
    {rest : List Impact} {from_ : Progress} {next : Attempt}
    (h : Impact.resolve p source (c :: cs) rest from_ = .ok next) :
    next.distance < Impact.sizeAll rest + 1 := by
  cases next with
  | waiting =>
    have := (Impact.sizeAll_remaining h).2 (List.cons_ne_nil _ _)
    simp only [distance]
    omega
  | unplayable => simp [distance]
  | complete => simp [distance]

/-- Every complete outcome that an attempt leads to, in the order of the answers. -/
def branches (p : PlayerId) (a : Attempt) : Except Fault Branches :=
  match a with
  | unplayable _ => .ok ⟨[], 1⟩
  | complete ops g => .ok ⟨[⟨g, ops⟩], 1⟩
  | waiting ops rest pending source g => do
    let below ← pending.options.choices.mapM fun c =>
      match _h : Impact.resolve p source [c] rest ⟨g, ops⟩ with
      | .error f => .error f
      | .ok next => next.branches p
    return (Branches.join below).append ⟨[], 1⟩
termination_by a.distance
decreasing_by simpa only [distance] using distance_lt _h

end Attempt

/-- Every way in which `p` can play a card. -/
def Game.playBranches (g : Game) (p : PlayerId) (c : Card) : Except Fault Branches := do
  (← g.playCard p c).branches p

end Terraforming
