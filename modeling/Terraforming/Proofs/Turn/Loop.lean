import Terraforming.Proofs.Board.Standard
import Terraforming.Proofs.Game.Books
import Terraforming.Proofs.Turn.Blocks
import Terraforming.Proofs.Turn.Decisions
import Terraforming.Proofs.Turn.Invariants
import Terraforming.Proofs.Turn.Resumption

/-!
# How long the impact loop runs

A resolution is a loop over a queue of impacts.  A pass takes the first impact off the queue and, when it
comes to a decision, the next of the choices.  An option that is chosen goes back to the front, so the
queue need not get shorter; but the nodes in its trees get fewer with every pass.  Hence there are no
more passes than nodes, and no more choices answer the impacts of the queue.

A decision that a bonus of the board comes to is another matter: it takes the next choice too, and no
node pays for that.  So the choices are counted apart.

* `Loop.pass`, `Loop.run` — the loop, one pass at a time, and what it uses up; it is the resolution
  (`Loop.run_attempt`);
* `Loop.pass_cases` — all that a pass can do, whether the loop goes on (`Loop.Passes`) or is over
  (`Loop.Halts`);
* `Loop.run_within` — what a whole run uses up;
* `AnswerChain.length_le` — chains of answers to a move;
* `Game.loop_within_nodes` — resolutions, turns and chains of answers are within the nodes of the queue.
-/

namespace Terraforming

/-! ## Counting -/

namespace Impact

mutual

/-- A walk meets every node of a tree once. -/
theorem length_walk : (i : Impact) → i.walk.length = i.size
  | ⟨_, _, _, _, _, _, _, _, _, options⟩ => by
    rw [walk, size, List.length_cons, length_walkAll options, Nat.add_comm]

theorem length_walkAll : (is : List Impact) → (walkAll is).length = sizeAll is
  | [] => rfl
  | i :: is => by rw [walkAll, sizeAll, List.length_append, length_walk i, length_walkAll is]

end

end Impact

/-- What a resolution has used up of its queue and its choices. -/
structure Usage where
  /-- The impacts that were taken off the queue, -/
  impacts : Nat
  /-- the choices that answered them, -/
  answers : Nat := 0
  /-- and those that answered bonuses of the board. -/
  bonusAnswers : Nat := 0
deriving DecidableEq

instance : Add Usage where
  add u v := ⟨u.impacts + v.impacts, u.answers + v.answers, u.bonusAnswers + v.bonusAnswers⟩

namespace Usage

variable (u v : Usage)

@[simp] theorem impacts_add : (u + v).impacts = u.impacts + v.impacts := rfl

@[simp] theorem answers_add : (u + v).answers = u.answers + v.answers := rfl

@[simp] theorem bonusAnswers_add : (u + v).bonusAnswers = u.bonusAnswers + v.bonusAnswers := rfl

end Usage

/-- The choices that a demand takes: the next one if it asks for a decision. -/
def Demand.taken {i : Impact} (d : Demand i) (cs : List Choice) : Nat :=
  if d.question?.isSome then min 1 cs.length else 0

namespace Demand

variable {i : Impact} {d : Demand i} {b : Board} {cs rest answer : List Choice}
  {ops : List Operation} {more : List Impact}

theorem taken_le_one : d.taken cs ≤ 1 := by
  unfold taken
  split <;> omega

theorem taken_le_length : d.taken cs ≤ cs.length := by
  unfold taken
  split <;> omega

/-- What carries a demand out is just what it takes. -/
theorem Yields.taken (h : d.Yields b answer ops more) :
    d.taken (answer ++ rest) = answer.length := by
  cases h <;> simp [Demand.taken, question?]

/-- It takes a decision to use a choice. -/
theorem Yields.asks {c : Choice} (h : d.Yields b (c :: cs) ops more) : d.question? ≠ none := by
  cases h <;> nofun

theorem Yields.length_answer (h : d.Yields b answer ops more) : answer.length ≤ 1 := by
  cases h with
  | perform => exact Nat.zero_le _
  | _ => exact Nat.le_refl _

end Demand

/-! ## The loop -/

/-- A resolution between two passes. -/
structure Loop where
  queue : List Impact
  choices : List Choice
  progress : Progress

namespace Loop

/-- What comes after a pass. -/
inductive Next where
  | again (l : Loop)
  | ended (a : Attempt)

/-- One pass of the loop: the first impact of the queue, with its bonuses and the reactions to it. -/
def pass (actor : PlayerId) (source : Option Int) (l : Loop) : Except Fault (Usage × Next) :=
  match l.queue with
  | [] => .ok (⟨0, 0, 0⟩, .ended (.complete l.progress.operations l.progress.game))
  | i :: is =>
    match i.demand l.progress.game actor source with
    | .error f => .error f
    | .ok d =>
      match d.meet l.progress.game.board l.choices with
      | .waiting options =>
        .ok (⟨1, 0, 0⟩,
          .ended (.waiting l.progress.operations (i :: is) ⟨i, options⟩ source l.progress.game))
      | .refused r => .ok (⟨1, d.taken l.choices, 0⟩, .ended (.unplayable r))
      | .skipped => .ok (⟨1, 0, 0⟩, .again ⟨is, l.choices, l.progress⟩)
      | .performed ops => do
        let p ← l.progress.emit ops >>= i.conclude actor
        return (⟨1, 0, 0⟩, .again ⟨is, l.choices, p⟩)
      | .answered ops bonuses rest _ => do
        let (left, p) ← l.progress.emit ops >>= Impact.settleBonuses actor source rest bonuses
        let p ← i.conclude actor p
        return (⟨1, d.taken l.choices, rest.length - left.length⟩, .again ⟨is, left, p⟩)
      | .replaced j _ rest => .ok (⟨1, d.taken l.choices, 0⟩, .again ⟨j :: is, rest, l.progress⟩)

/-- What a pass does when the loop goes on: the impact is skipped, or it is carried out with its answer, if
it needs one, or an option takes its place. -/
inductive Passes (actor : PlayerId) (source : Option Int) : Loop → Usage → Loop → Prop where
  | skipped {i : Impact} {is : List Impact} {cs : List Choice} {p : Progress} :
      Passes actor source ⟨i :: is, cs, p⟩ ⟨1, 0, 0⟩ ⟨is, cs, p⟩
  | carriedOut {i : Impact} {is more : List Impact} {answer rest left : List Choice}
      {ops : List Operation} {p p₁ p₂ p₃ : Progress} :
      i.Does actor source p.game answer ops more → p.emit ops = .ok p₁ →
      Impact.settleBonuses actor source rest more p₁ = .ok (left, p₂) →
      i.conclude actor p₂ = .ok p₃ →
      Passes actor source ⟨i :: is, answer ++ rest, p⟩
        ⟨1, answer.length, rest.length - left.length⟩ ⟨is, left, p₃⟩
  | chosen {i j : Impact} {is : List Impact} {c : Choice} {rest : List Choice} {p : Progress} :
      j ∈ i.options → Passes actor source ⟨i :: is, c :: rest, p⟩ ⟨1, 1, 0⟩ ⟨j :: is, rest, p⟩

/-- What a pass does when the loop is over: the queue is empty, or a decision is missing, or the impact is
refused. -/
inductive Halts (source : Option Int) : Loop → Usage → Attempt → Prop where
  | complete {cs : List Choice} {p : Progress} :
      Halts source ⟨[], cs, p⟩ ⟨0, 0, 0⟩ (.complete p.operations p.game)
  | waiting {i : Impact} {is : List Impact} {cs : List Choice} {p : Progress} {d : Demand i}
      {options : Options} : d.meet p.game.board cs = .waiting options →
      Halts source ⟨i :: is, cs, p⟩ ⟨1, 0, 0⟩
        (.waiting p.operations (i :: is) ⟨i, options⟩ source p.game)
  | refused {i : Impact} {is : List Impact} {cs : List Choice} {p : Progress} (d : Demand i)
      (r : Refusal) : Halts source ⟨i :: is, cs, p⟩ ⟨1, d.taken cs, 0⟩ (.unplayable r)

variable {actor : PlayerId} {source : Option Int} {l l' : Loop} {u : Usage} {a : Attempt}

/-- **One pass**: the loop goes on, or it is over. -/
theorem pass_cases {next : Next} (h : l.pass actor source = .ok (u, next)) :
    (∃ l', next = .again l' ∧ Passes actor source l u l') ∨
      ∃ a, next = .ended a ∧ Halts source l u a := by
  obtain ⟨queue, cs, p⟩ := l
  cases queue with
  | nil =>
    cases h
    exact .inr ⟨_, rfl, .complete⟩
  | cons i is =>
    simp only [pass] at h
    cases hd : i.demand p.game actor source with
    | error f =>
      rw [hd] at h
      cases h
    | ok d =>
      rw [hd] at h
      simp only at h
      cases hm : d.meet p.game.board cs with
      | waiting options =>
        rw [hm] at h
        cases h
        exact .inr ⟨_, rfl, .waiting hm⟩
      | refused r =>
        rw [hm] at h
        cases h
        exact .inr ⟨_, rfl, .refused d r⟩
      | skipped =>
        rw [hm] at h
        cases h
        exact .inl ⟨_, rfl, .skipped⟩
      | performed ops =>
        rw [hm] at h
        obtain ⟨p₂, carried, h⟩ := bind_eq_ok.1 h
        obtain ⟨p₁, emitted, concluded⟩ := bind_eq_ok.1 carried
        cases h
        have settled : Impact.settleBonuses actor source cs [] p₁ = .ok (cs, p₁) := by
          rw [Impact.settleBonuses]
        have passes : Passes actor source ⟨i :: is, cs, p⟩ ⟨1, 0, cs.length - cs.length⟩
            ⟨is, cs, p₂⟩ :=
          .carriedOut ⟨d, hd, Demand.yields_of_performed hm⟩ emitted settled concluded
        rw [Nat.sub_self] at passes
        exact .inl ⟨_, rfl, passes⟩
      | answered ops more rest used =>
        rw [hm] at h
        obtain ⟨⟨left, p₂⟩, carried, h⟩ := bind_eq_ok.1 h
        obtain ⟨p₁, emitted, settled⟩ := bind_eq_ok.1 carried
        obtain ⟨p₃, concluded, h⟩ := bind_eq_ok.1 h
        obtain ⟨c, rfl, yields⟩ := Demand.yields_of_answered hm
        cases h
        have taken : d.taken (c :: rest) = 1 := yields.taken
        rw [taken]
        exact .inl ⟨_, rfl, .carriedOut ⟨d, hd, yields⟩ emitted settled concluded⟩
      | replaced j mem rest =>
        rw [hm] at h
        obtain ⟨rfl, c, n, rfl, -⟩ := Demand.choose_of_replaced hm
        cases h
        exact .inl ⟨_, rfl, .chosen mem⟩

theorem pass_again (h : l.pass actor source = .ok (u, .again l')) : Passes actor source l u l' := by
  obtain ⟨l'', ⟨⟩, passes⟩ | ⟨a, ⟨⟩, -⟩ := pass_cases h
  exact passes

theorem pass_ended (h : l.pass actor source = .ok (u, .ended a)) : Halts source l u a := by
  obtain ⟨l', ⟨⟩, -⟩ | ⟨a', ⟨⟩, halts⟩ := pass_cases h
  exact halts

namespace Passes

/-- With every pass there are fewer nodes. -/
theorem shrinks (h : Passes actor source l u l') :
    Impact.sizeAll l'.queue < Impact.sizeAll l.queue := by
  cases h with
  | @skipped i | @carriedOut i =>
    have := Impact.size_pos i
    simp only [Impact.sizeAll]
    omega
  | chosen mem =>
    have := Impact.size_lt_of_mem_options mem
    simp only [Impact.sizeAll]
    omega

/-- A pass takes one impact off the queue, and one choice for it at most. -/
theorem spends (h : Passes actor source l u l') :
    u.impacts = 1 ∧ u.answers ≤ 1 ∧
      l.choices.length = u.answers + u.bonusAnswers + l'.choices.length := by
  cases h with
  | skipped => exact ⟨rfl, Nat.zero_le _, (Nat.zero_add _).symm⟩
  | carriedOut does emitted settled concluded =>
    obtain ⟨d, -, yields⟩ := does
    obtain ⟨answers, -, -, rfl, -⟩ := Impact.settleBonuses_settles settled
    refine ⟨rfl, yields.length_answer, ?_⟩
    simp only [List.length_append]
    omega
  | chosen mem => exact ⟨rfl, Nat.le_refl _, Nat.add_comm _ _⟩

end Passes

/-- The loop: passes until the queue is empty, a decision is missing or the rules do not permit it. -/
def run (actor : PlayerId) (source : Option Int) (l : Loop) : Except Fault (Usage × Attempt) :=
  match _h : l.pass actor source with
  | .error f => .error f
  | .ok (u, .ended a) => .ok (u, a)
  | .ok (u, .again l') => (l'.run actor source).map fun r => (u + r.1, r.2)
termination_by Impact.sizeAll l.queue
decreasing_by exact (pass_again ‹_›).shrinks

theorem run_error {f : Fault} (h : l.pass actor source = .error f) :
    l.run actor source = .error f := by
  rw [run]
  split <;> simp_all

theorem run_ended (h : l.pass actor source = .ok (u, .ended a)) :
    l.run actor source = .ok (u, a) := by
  rw [run]
  split <;> simp_all

theorem run_again (h : l.pass actor source = .ok (u, .again l')) :
    l.run actor source = (l'.run actor source).map fun r => (u + r.1, r.2) := by
  rw [run]
  split <;> simp_all

/-! ## The loop is the resolution -/

/-- The resolution from here. -/
def resolve (actor : PlayerId) (source : Option Int) (l : Loop) : Except Fault Attempt :=
  Impact.resolve actor source l.choices l.queue l.progress

/-- A resolution is one pass, and the resolution of what that leaves. -/
theorem resolve_eq_pass (l : Loop) :
    l.resolve actor source = l.pass actor source >>= fun r =>
      match r.2 with
      | .ended a => .ok a
      | .again l' => l'.resolve actor source := by
  obtain ⟨queue, cs, p⟩ := l
  cases queue with
  | nil => simp only [resolve, pass, Impact.resolve, ok_bind]
  | cons i is =>
    simp only [resolve, pass]
    rw [Impact.resolve]
    cases i.demand p.game actor source with
    | error f => rfl
    | ok d =>
      simp only
      cases d.meet p.game.board cs with
      | waiting options | refused r | skipped | replaced j mem rest => rfl
      | performed ops =>
        simp only
        cases p.emit ops >>= i.conclude actor <;> rfl
      | answered ops bonuses rest used =>
        simp only
        cases p.emit ops >>= Impact.settleBonuses actor source rest bonuses with
        | error f => rfl
        | ok settled =>
          simp only [ok_bind]
          cases i.conclude actor settled.2 <;> rfl

/-- **The loop is the resolution**, and counts what it uses up. -/
theorem run_attempt (l : Loop) :
    (l.run actor source).map Prod.snd = l.resolve actor source := by
  induction l using run.induct actor source with
  | case1 l f h => rw [run_error h, resolve_eq_pass, h]; rfl
  | case2 l u a h => rw [run_ended h, resolve_eq_pass, h]; rfl
  | case3 l u l' h ih =>
    rw [run_again h, resolve_eq_pass, h, ok_bind]
    refine Eq.trans ?_ ih
    cases l'.run actor source <;> rfl

/-! ## What a run uses up -/

/-- What has been used up is within the queue and the choices. -/
structure Within (l : Loop) (u : Usage) (a : Attempt) : Prop where
  impacts : u.impacts ≤ Impact.sizeAll l.queue
  answers : u.answers ≤ u.impacts
  choices : u.answers + u.bonusAnswers ≤ l.choices.length
  /-- When a decision is missing, all choices are used up, and not by the impact that waits. -/
  waits : a.left ≠ [] →
    u.answers + u.bonusAnswers = l.choices.length ∧ u.answers < u.impacts

/-- If a decision is missing, no choice is left. -/
theorem Halts.within (h : Halts source l u a) : l.Within u a := by
  cases h with
  | complete => exact ⟨Nat.zero_le _, Nat.le_refl _, Nat.zero_le _, fun left => absurd rfl left⟩
  | @waiting i is cs p d options hm =>
    have one : 1 ≤ Impact.sizeAll (i :: is) := Nat.le_add_right_of_le (Impact.size_pos i)
    refine ⟨one, Nat.zero_le _, Nat.zero_le _, fun _ => ?_⟩
    rw [Demand.no_choice_of_waiting hm]
    exact ⟨rfl, Nat.one_pos⟩
  | @refused i is cs p d r =>
    have one : 1 ≤ Impact.sizeAll (i :: is) := Nat.le_add_right_of_le (Impact.size_pos i)
    exact ⟨one, d.taken_le_one, d.taken_le_length, fun left => absurd rfl left⟩

/-- A pass more at the front. -/
theorem Within.after {w : Usage} (rest : l'.Within w a) (passes : Passes actor source l u l') :
    l.Within (u + w) a := by
  have fewer := passes.shrinks
  obtain ⟨one, answers, choices⟩ := passes.spends
  have impacts := rest.impacts
  have later := rest.answers
  have left := rest.choices
  refine ⟨?_, ?_, ?_, fun waits => ?_⟩
  · rw [Usage.impacts_add]
    omega
  · rw [Usage.answers_add, Usage.impacts_add]
    omega
  · rw [Usage.answers_add, Usage.bonusAnswers_add]
    omega
  · have := rest.waits waits
    rw [Usage.answers_add, Usage.bonusAnswers_add, Usage.impacts_add]
    omega

/-- **A whole run** is within the queue and the choices, since every pass is. -/
theorem run_within (h : l.run actor source = .ok (u, a)) : l.Within u a := by
  induction l using run.induct actor source generalizing u with
  | case1 l f failed =>
    rw [run_error failed] at h
    cases h
  | case2 l v b ends =>
    rw [run_ended ends] at h
    cases h
    exact (pass_ended ends).within
  | case3 l v l' again ih =>
    rw [run_again again] at h
    obtain ⟨⟨w, b⟩, later, same⟩ := map_eq_ok.1 h
    obtain ⟨rfl, rfl⟩ := Prod.mk.inj same
    exact (ih later).after (pass_again again)

/-- When a decision is missing, the choices for the queue are fewer than its nodes. -/
theorem run_waits (h : l.run actor source = .ok (u, a)) (left : a.left ≠ []) :
    u.bonusAnswers ≤ l.choices.length ∧
      l.choices.length - u.bonusAnswers < Impact.sizeAll l.queue := by
  have within := run_within h
  have impacts := within.impacts
  obtain ⟨used, fewer⟩ := within.waits left
  omega

end Loop

/-! ## Boards whose bonuses ask for nothing -/

/-- No bonus that is printed on the board asks for a decision. -/
def Board.Quiet (b : Board) : Prop :=
  ∀ l space, b.spaces.get? l = some space → ∀ i ∈ space.bonuses, i.type.question? = none

namespace Board

variable {b b' : Board}

theorem Quiet.of_spaces (quiet : b.Quiet) (same : b'.spaces = b.spaces) : b'.Quiet := by
  intro l space hs
  exact quiet l space (same ▸ hs)

/-- The standard layout brings resources and cards only. -/
theorem quiet_of_standard (layout : b.spaces = standard.spaces) : b.Quiet := by
  intro l space hs i hi
  rw [layout] at hs
  have plain := standard_bonuses (l, space) (Table.get?_eq_some_iff.1 hs) i hi
  simp only [Impact.isPlainGain, Bool.and_eq_true, Bool.or_eq_true, decide_eq_true_eq] at plain
  rcases plain.1 with ⟨type, -⟩ | type <;> rw [type] <;> rfl

/-- What a tile brings asks for nothing then, with the megacredits for oceans nearby. -/
theorem Quiet.bonuses (quiet : b.Quiet) {l : Location} :
    ∀ i ∈ b.placementBonuses l, i.type.question? = none := by
  intro i hi
  obtain ⟨space, hs, printed⟩ | ⟨n, rfl⟩ := mem_placementBonuses hi
  · exact quiet l space hs i printed
  · rfl

end Board

namespace Impact

variable {actor : PlayerId} {source : Option Int} {cs rest : List Choice} {bonuses : List Impact}
  {p p' : Progress}

/-- Bonuses that ask for nothing leave the choices. -/
theorem settleBonuses_quiet (quiet : ∀ i ∈ bonuses, i.type.question? = none)
    (h : settleBonuses actor source cs bonuses p = .ok (rest, p')) : rest = cs := by
  fun_induction settleBonuses actor source cs bonuses p with
  | case1 cs p =>
    cases h
    rfl
  | case3 cs i is p d hd hm ih => exact ih (List.forall_mem_cons.1 quiet).2 h
  | case5 cs i is p d hd ops hm p₁ he ih => exact ih (List.forall_mem_cons.1 quiet).2 h
  | case7 cs i is p d hd ops more rest' used hm p₁ he ih =>
    obtain ⟨c, rfl, yields⟩ := Demand.yields_of_answered hm
    have none : d.question? = none := by
      obtain none | same := demand_asks hd
      · exact none
      · exact same.trans (quiet i List.mem_cons_self)
    exact absurd none yields.asks
  | _ => cases h

/-- No impact changes the layout. -/
theorem maintains_spaces (spaces : Table Location Space) :
    Maintains (fun _ => True) fun g => g.board.spaces = spaces where
  met _ same _ _ accepted := (Game.executeAll_spaces accepted).trans same
  reactions same accepted := (Game.executeAll_spaces accepted).trans same
  bonuses _ _ _ _ := trivial

end Impact

namespace Loop

variable {actor : PlayerId} {source : Option Int} {l l' : Loop} {u : Usage} {a : Attempt}

/-- On a quiet board no choice goes to a bonus, and the board stays quiet. -/
theorem Passes.quiet (h : Passes actor source l u l') (quiet : l.progress.game.board.Quiet) :
    u.bonusAnswers = 0 ∧ l'.progress.game.board.Quiet := by
  cases h with
  | skipped | chosen => exact ⟨rfl, quiet⟩
  | @carriedOut i is more answer rest left ops p p₁ p₂ p₃ does emitted settled concluded =>
    have m := Impact.maintains_spaces p.game.board.spaces
    have placed := Game.executeAll_spaces (Progress.emit_eq_ok.1 emitted).1
    have kept := m.conclude (m.settleBonuses placed (fun _ _ => trivial) settled) concluded
    have asksNothing : ∀ i ∈ more, i.type.question? = none := by
      obtain ⟨d, -, yields⟩ := does
      rcases yields.bonuses with rfl | ⟨l, rfl⟩
      · exact List.forall_mem_nil _
      · exact quiet.bonuses
    rw [Impact.settleBonuses_quiet asksNothing settled]
    exact ⟨Nat.sub_self _, quiet.of_spaces kept⟩

/-- Nor in a whole run. -/
theorem run_quiet (quiet : l.progress.game.board.Quiet) (h : l.run actor source = .ok (u, a)) :
    u.bonusAnswers = 0 := by
  induction l using run.induct actor source generalizing u with
  | case1 l f failed =>
    rw [run_error failed] at h
    cases h
  | case2 l v b ends =>
    rw [run_ended ends] at h
    cases h
    cases pass_ended ends <;> rfl
  | case3 l v l' again ih =>
    rw [run_again again] at h
    obtain ⟨⟨w, b⟩, later, same⟩ := map_eq_ok.1 h
    obtain ⟨rfl, rfl⟩ := Prod.mk.inj same
    obtain ⟨none, quiet⟩ := (pass_again again).quiet quiet
    rw [Usage.bonusAnswers_add, none, ih quiet later]

end Loop

/-! ## Turns -/

variable {p : PlayerId} {queue : List Impact} {move : List Choice → Except Fault Attempt}
  {cs ds : List Choice} {a : Attempt}

/-- A move that waits for a decision is a resolution of its queue. -/
theorem ComesDown.eq_resolve (h : ComesDown p queue move) (done : move cs = .ok a)
    (left : a.left ≠ []) :
    ∃ source start, move = fun cs => Impact.resolve p source cs queue start := by
  cases h with
  | refused r | completed ops g =>
    cases done
    exact absurd rfl left
  | failed f => cases done
  | resolved source start => exact ⟨source, start, rfl⟩

/-- The attempt waits for a decision for which the choice is legal. -/
def Attempt.awaits (c : Choice) : Attempt → Bool
  | .waiting _ _ pending _ _ => pending.options.accepts c
  | _ => false

/-- A chain of accepted answers to a move: each of them is legal for the decision that the move comes to
with those before it. -/
inductive AnswerChain (move : List Choice → Except Fault Attempt) : List Choice → Prop where
  | nothing : AnswerChain move []
  | next {ds : List Choice} {c : Choice} {a : Attempt} : AnswerChain move ds → move ds = .ok a →
      a.awaits c = true → AnswerChain move (ds ++ [c])

namespace AnswerChain

variable {ops : List Operation} {rest : List Impact} {pending : Pending} {source : Option Int}
  {g : Game}

theorem awaits_iff {c : Choice} : a.awaits c = true ↔ ∃ ops rest pending source g,
    a = .waiting ops rest pending source g ∧ pending.options.accepts c = true := by
  cases a <;> simp [Attempt.awaits]

/-- Every answer leaves fewer nodes. -/
theorem length_add_left (h : AnswerChain move ds) (comes : ComesDown p queue move)
    (waits : move ds = .ok (.waiting ops rest pending source g)) :
    ds.length + Impact.sizeAll rest ≤ Impact.sizeAll queue := by
  induction h generalizing ops rest pending source g with
  | nothing =>
    have some : rest ≠ [] := by
      obtain ⟨is, d, rfl, -⟩ := comes.resumes.pends [] _ waits
      nofun
    obtain ⟨source, start, rfl⟩ := comes.eq_resolve waits some
    rw [List.length_nil, Nat.zero_add]
    exact (Impact.sizeAll_remaining waits).1
  | @next ds c a _ waited awaits ih =>
    obtain ⟨ops', rest', pending', source', g', rfl, -⟩ := awaits_iff.1 awaits
    have step := comes.resumes.append ds [c] _ waited
    rw [step] at waits
    have resolved := (Impact.resolve_from_start ops' g' [c]).symm.trans waits
    have fewer := (Impact.sizeAll_remaining resolved).2 (List.cons_ne_nil _ _)
    have before := ih waited
    rw [List.length_append, List.length_singleton]
    omega

/-- **A chain of answers** has at most one answer for every node. -/
theorem length_le (h : AnswerChain move ds) (comes : ComesDown p queue move) :
    ds.length ≤ Impact.sizeAll queue := by
  cases h with
  | nothing => exact Nat.zero_le _
  | @next ds c a before waits awaits =>
    obtain ⟨ops, rest, pending, source, g, rfl, -⟩ := awaits_iff.1 awaits
    have within := before.length_add_left comes waits
    obtain ⟨is, d, rfl, -⟩ := comes.resumes.pends ds _ waits
    have one := Impact.size_pos pending.impact
    rw [Impact.sizeAll] at within
    rw [List.length_append, List.length_singleton]
    omega

end AnswerChain

namespace Game

/-- What a turn starts to resolve lies on the layout that it found. -/
theorem spaces_of_start {g g' : Game} {action : TurnAction} {start : Progress} {source : Option Int}
    (taken : g.takeTurn p action cs = .ok a) (hg : a.game? = some g')
    (resolved : Impact.resolve p source cs queue start = .ok a) :
    start.game.board.spaces = g.board.spaces := by
  have turn := ((takeTurn_begins taken).keeps (Impact.maintains_spaces g.board.spaces)
    (fun _ leads => executeAll_spaces leads) fun _ _ _ _ => trivial).game hg
  have resolution := ((Impact.maintains_spaces start.game.board.spaces).resolve rfl
    (fun _ _ _ _ => trivial) resolved).game hg
  exact resolution.symm.trans turn

/-- **The impact loop ends within the size of its input.**  A resolution takes at most as many impacts
off its queue as there are nodes in it, and answers them with at most as many choices.  Other choices
may go to bonuses of the board, but none do where no bonus asks for a decision.  If a turn waits after
some choices, those that did not go to bonuses are fewer than the nodes of its queue.  And no chain of
accepted answers to a turn is longer. -/
theorem loop_within_nodes (p : PlayerId) :
    (∀ source queue cs start a, Impact.resolve p source cs queue start = .ok a →
      ∃ u, Loop.run p source ⟨queue, cs, start⟩ = .ok (u, a) ∧
        u.impacts ≤ (Impact.walkAll queue).length ∧ u.answers ≤ (Impact.walkAll queue).length ∧
        u.answers + u.bonusAnswers ≤ cs.length ∧
        (start.game.board.Quiet → u.bonusAnswers = 0)) ∧
    ∀ (g : Game) (action : TurnAction),
      (∀ cs ops rest pending source g',
        g.takeTurn p action cs = .ok (.waiting ops rest pending source g') →
        ∃ source₀ start u,
          (∀ cs, g.takeTurn p action cs =
            Impact.resolve p source₀ cs (g.turnImpacts p action) start) ∧
          Loop.run p source₀ ⟨g.turnImpacts p action, cs, start⟩ =
            .ok (u, .waiting ops rest pending source g') ∧
          u.bonusAnswers ≤ cs.length ∧
          cs.length - u.bonusAnswers < (Impact.walkAll (g.turnImpacts p action)).length ∧
          (g.board.Quiet → u.bonusAnswers = 0)) ∧
      ∀ ds, AnswerChain (g.takeTurn p action ·) ds →
        ds.length ≤ (Impact.walkAll (g.turnImpacts p action)).length := by
  have counted : ∀ {source queue cs start a}, Impact.resolve p source cs queue start = .ok a →
      ∃ u, Loop.run p source ⟨queue, cs, start⟩ = .ok (u, a) := by
    intro source queue cs start a resolved
    have same : (Loop.run p source ⟨queue, cs, start⟩).map Prod.snd = .ok a :=
      (Loop.run_attempt _).trans resolved
    obtain ⟨⟨u, b⟩, run, rfl⟩ := map_eq_ok.1 same
    exact ⟨u, run⟩
  simp only [Impact.length_walkAll]
  refine ⟨fun source queue cs start a resolved => ?_, fun g action => ⟨?_, ?_⟩⟩
  · obtain ⟨u, run⟩ := counted resolved
    have within := Loop.run_within run
    exact ⟨u, run, within.impacts, Nat.le_trans within.answers within.impacts, within.choices,
      fun quiet => Loop.run_quiet quiet run⟩
  · intro cs ops rest pending source g' taken
    have comes : ComesDown p (g.turnImpacts p action) (g.takeTurn p action ·) :=
      takeTurn_comesDown g action
    have some : rest ≠ [] := by
      obtain ⟨is, d, rfl, -⟩ := comes.resumes.pends cs _ taken
      nofun
    obtain ⟨source₀, start, shape⟩ := comes.eq_resolve taken some
    have resolved := (congrFun shape cs).symm.trans taken
    obtain ⟨u, run⟩ := counted resolved
    obtain ⟨bonuses, fewer⟩ := Loop.run_waits run some
    exact ⟨source₀, start, u, congrFun shape, run, bonuses, fewer, fun quiet =>
      Loop.run_quiet (quiet.of_spaces (spaces_of_start taken rfl resolved)) run⟩
  · intro ds answered
    exact answered.length_le (takeTurn_comesDown g action)

/-- In `solo` the aquifer waits for the place of its ocean.  Its queue has one node, and the one answer
that is accepted is as long a chain as there can be. -/
theorem loop_within_nodes_solo :
    (∃ ops rest pending source g',
      solo.takeTurn 1 (.standardProject .aquifer) [] =
        .ok (.waiting ops rest pending source g') ∧
      ∃ source₀ start u,
        Impact.resolve 1 source₀ [] [.placeOcean] start =
          .ok (.waiting ops rest pending source g') ∧
        Loop.run 1 source₀ ⟨[.placeOcean], [], start⟩ =
          .ok (u, .waiting ops rest pending source g') ∧
        u.impacts ≤ 1 ∧ u.bonusAnswers = 0) ∧
    AnswerChain (solo.takeTurn 1 (.standardProject .aquifer) ·) [.at_ (.onMars ⟨5, -1⟩)] ∧
    [Choice.at_ (.onMars ⟨5, -1⟩)].length ≤
      (Impact.walkAll (solo.turnImpacts 1 (.standardProject .aquifer))).length := by
  have asks : (solo.takeTurn 1 (.standardProject .aquifer) []).toOption.any
      (Attempt.awaits (.at_ (.onMars ⟨5, -1⟩))) = true := by
    decide +kernel
  obtain ⟨a, ha, accepts⟩ := Option.any_eq_true _ _ |>.1 asks
  have taken := toOption_eq_some.1 ha
  obtain ⟨resolutions, turns⟩ := loop_within_nodes 1
  obtain ⟨waiting, chains⟩ := turns solo (.standardProject .aquifer)
  have answered : AnswerChain (solo.takeTurn 1 (.standardProject .aquifer) ·)
      [.at_ (.onMars ⟨5, -1⟩)] := .next .nothing taken accepts
  obtain ⟨ops, rest, pending, source, g', rfl, -⟩ := AnswerChain.awaits_iff.1 accepts
  obtain ⟨source₀, start, u, shape, run, -, -, quiet⟩ := waiting [] _ _ _ _ _ taken
  have resolved := (shape []).symm.trans taken
  obtain ⟨v, again, impacts, -⟩ := resolutions _ _ _ _ _ resolved
  obtain ⟨rfl, -⟩ := Prod.mk.inj (Except.ok.inj (run.symm.trans again))
  exact ⟨⟨ops, rest, pending, source, g', taken, source₀, start, u, resolved, run, impacts,
    quiet (Board.quiet_of_standard rfl)⟩, answered, chains _ answered⟩

/-! ## A bonus that takes an answer -/

/-- Two spaces for oceans.  Who covers the first has somebody lose a plant. -/
def tidal : Board where
  spaces := Table.ofList
    [(.onMars ⟨0, 0⟩,
      { location := .onMars ⟨0, 0⟩
        designations := KeySet.ofList [.reservedForOcean]
        bonuses := [.destroyAnyPlants 1] }),
     (.onMars ⟨1, 0⟩,
      { location := .onMars ⟨1, 0⟩
        designations := KeySet.ofList [.reservedForOcean] })]
  cities := ∅
  oceans := ∅
  greeneries := ∅
  specialTiles := ∅
  oxygen := 0
  temperature := -30

/-- A card that brings two oceans. -/
def flood : Card := Design.card .automatic "Flood" [] 0 { impacts := [.placeOcean, .placeOcean] }

/-- A game on that board, in which the card can be played. -/
def flooding : Game where
  board := tidal
  players := Table.ofList
    [(1, { id := 1, resources := Pool.zero.insert .plants 3, hand := [flood] })]

/-- The card is in play, and its oceans are still to come. -/
def rising : Progress where
  game := { flooding with
    players := Table.ofList
      [(1, {
        id := 1
        resources := Pool.zero.insert .plants 3
        played := [⟨0, flood⟩]
        nextInstance := 1 })]
    log := [.putCardIntoPlay 1 flood 0] }
  operations := [.putCardIntoPlay 1 flood 0]

theorem flooding_playCard (cs : List Choice) : flooding.playCard 1 flood cs =
    Impact.resolve 1 (some 0) cs [.placeOcean, .placeOcean] rising := rfl

/-- In `flooding` the card waits after as many answers as its queue has nodes: the second of them went to
the bonus of the first space. -/
theorem flooding_waits :
    ¬∀ (g : Game) (p : PlayerId) (c : Card) (cs : List Choice) ops rest pending source g',
      g.playCard p c cs = .ok (.waiting ops rest pending source g') →
        cs.length < (Impact.walkAll (playImpacts c)).length := by
  intro fewer
  have resolved := (flooding_playCard [.at_ (.onMars ⟨0, 0⟩), .ofPlayer 1]).trans
    (Impact.resolve_cons_settled rfl rfl rfl (Impact.settleBonuses_answered rfl rfl rfl) rfl)
  rw [Impact.resolve] at resolved
  have two : 2 < (Impact.walkAll (playImpacts flood)).length := fewer _ _ _ _ _ _ _ _ _ resolved
  exact absurd two (by decide)

end Game

end Terraforming
