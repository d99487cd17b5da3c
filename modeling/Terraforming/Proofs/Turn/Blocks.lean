import Terraforming.Proofs.Card.Ready
import Terraforming.Proofs.Turn.Emissions
import Terraforming.Proofs.Turn.Meeting
import Terraforming.Proofs.Turn.Progress
import Terraforming.Proofs.Turn.Questions

/-!
# A resolution, impact by impact

Resolving a queue of impacts emits one block of operations for each of them, in their order.  A block
begins with what the impact does itself, goes on with the bonuses of the space that it covered, and
ends with the reactions to it.  An impact that is skipped has an empty block.  An impact that offers
options has no block: the option that is chosen has it, however deep it lies.

* `Impact.ComesTo` — the options that are chosen;
* `Impact.Does`, `Impact.Settles`, `Block.Ends` — what one impact does, its bonuses, its block;
* `Impact.resolve_unfolds` — every resolution that is not refused, up to the decision that it is
  left with.
-/

namespace Terraforming

/-! ## Options -/

namespace Impact

variable {i j k : Impact} {g : Game} {actor : PlayerId} {source : Option Int} {d : Demand i}

/-- What an impact comes to when choices name options: itself if it offers none, and otherwise what the
option comes to. -/
inductive ComesTo : Impact → List Choice → Impact → Prop where
  | self {i : Impact} : i.type ≠ .oneOf → ComesTo i [] i
  | option {i j k : Impact} {c : Choice} {cs : List Choice} {n : Int} : i.type = .oneOf →
      c.option = some n → 0 ≤ n → i.options[n.toNat]? = some j → ComesTo j cs k →
      ComesTo i (c :: cs) k

theorem ComesTo.mem_walk {cs : List Choice} (h : ComesTo i cs j) : j ∈ i.walk := by
  induction h with
  | self => exact mem_walk_self _
  | option _ _ _ there _ ih => exact walk_subset_of_mem_options (List.mem_of_getElem? there) ih

/-! ## What one impact does -/

/-- In the game `g` the impact comes to these operations when `answer` is given to what it demands, and
`more` are the bonuses of the space that it covers. -/
def Does (actor : PlayerId) (source : Option Int) (i : Impact) (g : Game) (answer : List Choice)
    (ops : List Operation) (more : List Impact) : Prop :=
  ∃ d, i.demand g actor source = .ok d ∧ d.Yields g.board answer ops more

/-- A tile goes to one of the locations that are listed. -/
theorem placeOn_yields {rs : List Restriction} {f : Location → List Operation} {b : Board}
    {answer : List Choice} {ops : List Operation} {more : List Impact}
    (h : (i.placeOn g actor rs f).Yields b answer ops more) :
    ∃ l ∈ g.board.legalLocations actor rs, ops = f l := by
  unfold placeOn at h
  split at h
  · cases h
  · cases h with
    | place _ legal => exact ⟨_, legal, rfl⟩

theorem type_ne_of_skip (hd : i.demand g actor source = .ok .skip) : i.type ≠ .oneOf := by
  intro type
  rw [demand_of_oneOf type] at hd
  cases hd

theorem Does.type_ne {answer : List Choice} {ops : List Operation} {more : List Impact}
    (does : i.Does actor source g answer ops more) : i.type ≠ .oneOf := by
  intro type
  obtain ⟨d, hd, yields⟩ := does
  rw [demand_of_oneOf type] at hd
  cases hd
  cases yields

end Impact

/-- An impact that was carried out, the game that it met and its operations. -/
structure Deed where
  impact : Impact
  game : Game
  operations : List Operation

namespace Impact

/-- Bonuses are settled one after the other, and those that they bring come next. -/
inductive Settles (actor : PlayerId) (source : Option Int) :
    Game → List Impact → List Choice → List Deed → Game → Prop where
  | nil (g : Game) : Settles actor source g [] [] [] g
  | skipped {g g' : Game} {i : Impact} {is : List Impact} {answers : List Choice}
      {deeds : List Deed} : i.demand g actor source = .ok .skip →
      Settles actor source g is answers deeds g' → Settles actor source g (i :: is) answers deeds g'
  | done {g g₁ g' : Game} {i : Impact} {is more : List Impact} {answer answers : List Choice}
      {ops : List Operation} {deeds : List Deed} : i.Does actor source g answer ops more →
      g.executeAll ops = .accepted g₁ → Settles actor source g₁ (more ++ is) answers deeds g' →
      Settles actor source g (i :: is) (answer ++ answers) (⟨i, g, ops⟩ :: deeds) g'

end Impact

/-! ## Blocks -/

/-- What came of one impact of a queue. -/
structure Block where
  /-- The impact, or the option that was chosen in its place. -/
  impact : Impact
  /-- The game that it met. -/
  game : Game
  /-- The choices of options, -/
  chosen : List Choice
  /-- and then those that answered the impact and its bonuses. -/
  answers : List Choice
  own : List Operation
  bonuses : List Deed
  gains : List Operation

namespace Block

def choices (b : Block) : List Choice := b.chosen ++ b.answers

def operations (b : Block) : List Operation :=
  b.own ++ b.bonuses.flatMap Deed.operations ++ b.gains

/-- The impact was skipped; or it was carried out, its bonuses were settled, and there were the
reactions to it.  The game is the one that the block leaves. -/
inductive Ends (actor : PlayerId) (source : Option Int) : Block → Game → Prop where
  | skipped {i : Impact} {g : Game} {chosen : List Choice} : i.demand g actor source = .ok .skip →
      Ends actor source ⟨i, g, chosen, [], [], [], []⟩ g
  | resolved {i : Impact} {g g₁ g₂ g₃ : Game} {chosen answer answers : List Choice}
      {ops : List Operation} {more : List Impact} {deeds : List Deed} :
      i.Does actor source g answer ops more → g.executeAll ops = .accepted g₁ →
      Impact.Settles actor source g₁ more answers deeds g₂ →
      g₂.executeAll (g₂.reactionsToImpact actor i) = .accepted g₃ →
      Ends actor source
        ⟨i, g, chosen, answer ++ answers, ops, deeds, g₂.reactionsToImpact actor i⟩ g₃

/-- One block after the other, each on the game as the one before it left it. -/
inductive Follow (actor : PlayerId) (source : Option Int) : Game → List Block → Game → Prop where
  | nil (g : Game) : Follow actor source g [] g
  | cons {b : Block} {bs : List Block} {g g₁ g' : Game} : b.game = g → b.Ends actor source g₁ →
      Follow actor source g₁ bs g' → Follow actor source g (b :: bs) g'

end Block

/-! ## Every resolution -/

/-- The impacts that are left when a decision is missing. -/
def Attempt.left : Attempt → List Impact
  | waiting _ remaining .. => remaining
  | _ => []

/-- What an attempt has made of a queue: a block of operations for each impact in `done`, and nothing yet
of those in `rest`, but that some options of the first of them may have been chosen. -/
structure Attempt.Unfolds (actor : PlayerId) (source : Option Int) (cs : List Choice)
    (done rest : List Impact) (p : Progress) (a : Attempt) (g' : Game) (blocks : List Block) :
    Prop where
  each : List.Forall₂ (fun i b => i.ComesTo b.chosen b.impact) done blocks
  operations : a.operations = p.operations ++ blocks.flatMap Block.operations
  choices : ∃ unused, cs = blocks.flatMap Block.choices ++ unused
  follow : Block.Follow actor source p.game blocks g'
  left : List.Forall₂ (fun i j => j ∈ i.walk) rest a.left

namespace Impact

variable {p p' : Progress} {cs rest : List Choice} {a : Attempt} {g' : Game}

theorem settleBonuses_settles {bonuses : List Impact}
    (h : settleBonuses actor source cs bonuses p = .ok (rest, p')) :
    ∃ answers deeds, Settles actor source p.game bonuses answers deeds p'.game ∧
      cs = answers ++ rest ∧ p'.operations = p.operations ++ deeds.flatMap Deed.operations := by
  fun_induction Impact.settleBonuses actor source cs bonuses p with
  | case1 cs p =>
    cases h
    exact ⟨[], [], .nil _, rfl, (List.append_nil _).symm⟩
  | case3 cs i is p d hd hm ih =>
    obtain ⟨answers, deeds, settles, used, noted⟩ := ih h
    obtain rfl := Demand.eq_skip_of_skipped hm
    exact ⟨answers, deeds, .skipped hd settles, used, noted⟩
  | case5 cs i is p d hd ops hm p₁ he ih =>
    obtain ⟨answers, deeds, settles, used, noted⟩ := ih h
    obtain ⟨accepted, ops_noted⟩ := Progress.emit_eq_ok.1 he
    refine ⟨answers, _, .done ⟨d, hd, Demand.yields_of_performed hm⟩ accepted settles, used, ?_⟩
    rw [noted, ops_noted, List.flatMap_cons, List.append_assoc]
  | case7 cs i is p d hd ops more rest' used hm p₁ he ih =>
    obtain ⟨answers, deeds, settles, taken, noted⟩ := ih h
    obtain ⟨accepted, ops_noted⟩ := Progress.emit_eq_ok.1 he
    obtain ⟨c, rfl, yields⟩ := Demand.yields_of_answered hm
    refine ⟨_, _, .done ⟨d, hd, yields⟩ accepted settles, ?_, ?_⟩
    · exact congrArg (c :: ·) taken
    · rw [noted, ops_noted, List.flatMap_cons, List.append_assoc]
  | _ => cases h

end Impact

/-- An option of an impact is chosen, and the block of the option is that of the impact. -/
def Block.choosing (c : Choice) (b : Block) : Block := { b with chosen := c :: b.chosen }

theorem Block.Ends.choosing {actor : PlayerId} {source : Option Int} {b : Block} {g : Game}
    (ends : b.Ends actor source g) (c : Choice) : (b.choosing c).Ends actor source g := by
  cases ends with
  | skipped hd => exact .skipped hd
  | resolved does accepted settles concluded => exact .resolved does accepted settles concluded

namespace Attempt.Unfolds

variable {actor : PlayerId} {source : Option Int} {cs rest : List Choice} {done later : List Impact}
  {p p' : Progress} {a : Attempt} {g' : Game} {b : Block} {blocks : List Block} {i j : Impact}

/-- One block more at the front. -/
theorem cons (h : a.Unfolds actor source rest done later p' g' blocks)
    (comes : i.ComesTo b.chosen b.impact) (met : b.game = p.game)
    (ends : b.Ends actor source p'.game) (noted : p'.operations = p.operations ++ b.operations)
    (used : cs = b.choices ++ rest) :
    a.Unfolds actor source cs (i :: done) later p g' (b :: blocks) := by
  obtain ⟨each, operations, ⟨unused, choices⟩, follow, left⟩ := h
  refine ⟨.cons comes each, ?_, ⟨unused, ?_⟩, .cons met ends follow, left⟩
  · rw [operations, noted, List.flatMap_cons, List.append_assoc]
  · rw [used, choices, List.flatMap_cons, List.append_assoc]

/-- An option is chosen first. -/
theorem option {c : Choice} {n : Int} {is : List Impact}
    (h : a.Unfolds actor source rest done later p g' blocks) (queue : j :: is = done ++ later)
    (type : i.type = .oneOf) (named : c.option = some n) (nonneg : 0 ≤ n)
    (there : i.options[n.toNat]? = some j) :
    ∃ done later blocks, i :: is = done ++ later ∧
      a.Unfolds actor source (c :: rest) done later p g' blocks := by
  obtain ⟨each, operations, ⟨unused, choices⟩, follow, left⟩ := h
  cases each with
  | nil =>
    -- the decision that is missing is one of the option itself
    obtain rfl : j :: is = later := queue
    obtain ⟨k, others, first, rest, remaining⟩ := List.forall₂_cons_left_iff.1 left
    have below := Impact.walk_subset_of_mem_options (List.mem_of_getElem? there) first
    exact ⟨[], i :: is, [], rfl, .nil, operations, ⟨_, rfl⟩, follow, remaining ▸ .cons below rest⟩
  | @cons j b done blocks comes each =>
    obtain ⟨rfl, rfl⟩ := List.cons.inj queue
    cases follow with
    | cons met ends follow =>
      exact ⟨i :: done, later, b.choosing c :: blocks, rfl,
        .cons (.option type named nonneg there comes) each, operations,
        ⟨unused, congrArg (c :: ·) choices⟩, .cons met (ends.choosing c) follow, left⟩

end Attempt.Unfolds

namespace Impact

variable {p p' : Progress} {cs rest : List Choice} {a : Attempt} {g' : Game}

/-- **A resolution** that is not refused unfolds into one block for each impact, up to the decision that it
is left with. -/
theorem resolve_unfolds {queue : List Impact} (h : resolve actor source cs queue p = .ok a)
    (hg : a.game? = some g') :
    ∃ done rest blocks, queue = done ++ rest ∧
      a.Unfolds actor source cs done rest p g' blocks := by
  fun_induction Impact.resolve actor source cs queue p with
  | case1 cs p =>
    cases h
    cases hg
    exact ⟨[], [], [], rfl, .nil, (List.append_nil _).symm, ⟨cs, rfl⟩, .nil _, .nil⟩
  | case3 cs p i is d hd options hm =>
    cases h
    cases hg
    exact ⟨[], _, [], rfl, .nil, (List.append_nil _).symm, ⟨cs, rfl⟩, .nil _,
      List.forall₂_same.2 fun j _ => mem_walk_self j⟩
  | case4 cs p i is d hd r hm =>
    cases h
    cases hg
  | case5 cs p i is d hd hm ih =>
    obtain ⟨done, later, blocks, rfl, unfolds⟩ := ih h
    obtain rfl := Demand.eq_skip_of_skipped hm
    exact ⟨i :: done, later, _, rfl, unfolds.cons (.self (type_ne_of_skip hd)) rfl (.skipped hd)
      (List.append_nil _).symm rfl⟩
  | case7 cs p i is d hd ops hm p₂ he ih =>
    obtain ⟨done, later, blocks, rfl, unfolds⟩ := ih h
    obtain ⟨p₁, ho, hc⟩ := bind_eq_ok.1 he
    obtain ⟨accepted, noted⟩ := Progress.emit_eq_ok.1 ho
    obtain ⟨concluded, gained⟩ := Progress.emit_eq_ok.1 hc
    have does : i.Does actor source p.game [] ops [] := ⟨d, hd, Demand.yields_of_performed hm⟩
    refine ⟨i :: done, later, _, rfl, unfolds.cons (.self does.type_ne) rfl
      (.resolved does accepted (.nil _) concluded) ?_ rfl⟩
    rw [gained, noted, Block.operations, List.flatMap_nil, List.append_nil, List.append_assoc]
  | case10 cs p i is d hd ops bonuses rest used hm rest' p₂ he p₃ hc ih =>
    obtain ⟨done, later, blocks, rfl, unfolds⟩ := ih h
    obtain ⟨p₁, ho, hb⟩ := bind_eq_ok.1 he
    obtain ⟨accepted, noted⟩ := Progress.emit_eq_ok.1 ho
    obtain ⟨answers, deeds, settles, taken, settled⟩ := settleBonuses_settles hb
    obtain ⟨concluded, gained⟩ := Progress.emit_eq_ok.1 hc
    obtain ⟨c, rfl, yields⟩ := Demand.yields_of_answered hm
    have does : i.Does actor source p.game [c] ops bonuses := ⟨d, hd, yields⟩
    have used : c :: rest = [] ++ ([c] ++ answers) ++ rest' := congrArg (c :: ·) taken
    refine ⟨i :: done, later, _, rfl, unfolds.cons (.self does.type_ne) rfl
      (.resolved does accepted settles concluded) ?_ used⟩
    simp only [gained, settled, noted, Block.operations, List.append_assoc]
  | case11 cs p i is d hd j mem rest hm ih =>
    obtain ⟨done, later, blocks, queue, unfolds⟩ := ih h
    obtain ⟨rfl, c, n, rfl, named, nonneg, there⟩ := Demand.choose_of_replaced hm
    exact unfolds.option queue (type_of_choose hd) named nonneg there
  | _ => cases h

end Impact

end Terraforming
