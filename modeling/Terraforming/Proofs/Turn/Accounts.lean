import Terraforming.Proofs.Board.Standard
import Terraforming.Proofs.Data.Enumeration
import Terraforming.Proofs.Game.Books
import Terraforming.Proofs.Turn.Blocks
import Terraforming.Proofs.Turn.Invariants

/-!
# Accounts of turns

The operations of a turn are those of its impacts, of the bonuses on the way and of the reactions, one
stretch after the other.  What is said of operations and the game that they meet is an account of the
whole turn if it is one of every such stretch, and if the accounts of two stretches make one
(`Impact.Accounts`).  The impacts come from somewhere: they are printed for the turn or on the board
(`Game.Origin`), or they are gains for oceans next to a tile.

* `Game.Trail` — the account that says the same of every single operation;
* `Impact.Accounts.resolve` — every resolution, by way of its blocks;
* `Impact.Accounts.begins` — hence every turn, and impacts that are taken up again (`Game.Acts`).
-/

namespace Terraforming

/-! ## Trails -/

/-- Operations that are all accepted, each as `S` says in the game that it meets. -/
inductive Game.Trail (S : Game → Operation → Prop) : Game → List Operation → Prop where
  | nil (g : Game) : Trail S g []
  | cons {g g₁ : Game} {o : Operation} {os : List Operation} : S g o → g.execute o = .accepted g₁ →
      Trail S g₁ os → Trail S g (o :: os)

namespace Game

variable {S : Game → Operation → Prop} {g g₁ g' : Game} {o : Operation}
  {os os' pre post : List Operation}

theorem Trail.append (h : Trail S g os) (accepted : g.executeAll os = .accepted g₁)
    (h' : Trail S g₁ os') : Trail S g (os ++ os') := by
  induction h with
  | nil =>
    cases accepted
    exact h'
  | cons here first _ ih =>
    obtain ⟨g₂, hg₂, rest⟩ := executeAll_cons_eq_accepted.1 accepted
    cases first.symm.trans hg₂
    exact .cons here first (ih rest)

/-- What holds of operations wherever they are carried out makes a trail. -/
theorem trail_of_forall (accepted : g.executeAll os = .accepted g') (all : ∀ h, ∀ o ∈ os, S h o) :
    Trail S g os := by
  induction os generalizing g with
  | nil => exact .nil g
  | cons o os ih =>
    obtain ⟨g₁, ho, hos⟩ := executeAll_cons_eq_accepted.1 accepted
    exact .cons (all g o List.mem_cons_self) ho
      (ih hos fun h o ho => all h o (List.mem_cons_of_mem _ ho))

/-- **Every operation** of a trail meets a game in which `S` says so of it, and is accepted there. -/
theorem Trail.meets (h : Trail S g os) (split : pre ++ o :: post = os) :
    ∃ h h', g.executeAll pre = .accepted h ∧ h.execute o = .accepted h' ∧ S h o := by
  induction h generalizing pre with
  | nil => simp at split
  | @cons g g₁ o' os here first _ ih =>
    cases pre with
    | nil =>
      cases split
      exact ⟨g, g₁, rfl, first, here⟩
    | cons o₁ pre =>
      obtain ⟨rfl, rest⟩ := List.cons.inj split
      obtain ⟨h, h', leads, accepted, here⟩ := ih rest
      exact ⟨h, h', executeAll_cons_eq_accepted.2 ⟨g₁, first, leads⟩, accepted, here⟩

end Game

/-! ## Where impacts come from -/

/-- The impact is printed on a space of the board. -/
def Board.Prints (b : Board) (i : Impact) : Prop :=
  ∃ l space, b.spaces.get? l = some space ∧ i ∈ space.bonuses

/-- The board prints the bonus, or it is a gain for oceans next to the space. -/
theorem Board.prints_of_mem_placementBonuses {b : Board} {l : Location} {i : Impact}
    (hi : i ∈ b.placementBonuses l) : b.Prints i ∨ i.type = .gainResource := by
  obtain ⟨space, hs, printed⟩ | ⟨n, rfl⟩ := mem_placementBonuses hi
  · exact .inl ⟨l, space, hs, printed⟩
  · exact .inr rfl

/-- Where the impacts of a turn come from: they are printed for it, or on the board. -/
def Game.Origin (g₀ : Game) (Printed : Impact → Prop) (i : Impact) : Prop :=
  Printed i ∨ g₀.board.Prints i

section

variable {g₀ g : Game} {p : PlayerId} {source : Option Int} {Printed : Impact → Prop}

theorem Game.origin_of_mem_placementBonuses (layout : g.board.spaces = g₀.board.spaces) {l : Location} :
    ∀ i ∈ g.board.placementBonuses l, g₀.Origin Printed i ∨ i.type = .gainResource := by
  intro i hi
  refine (Board.prints_of_mem_placementBonuses hi).imp_left ?_
  rintro ⟨l, space, hs, printed⟩
  exact .inr ⟨l, space, layout ▸ hs, printed⟩

theorem Impact.Does.origin {i : Impact} {answers : List Choice} {ops : List Operation}
    {more : List Impact} (does : i.Does p source g answers ops more)
    (layout : g.board.spaces = g₀.board.spaces) :
    ∀ j ∈ more, g₀.Origin Printed j ∨ j.type = .gainResource := by
  obtain ⟨d, -, yields⟩ := does
  obtain rfl | ⟨l, rfl⟩ := yields.bonuses
  · exact List.forall_mem_nil _
  · exact Game.origin_of_mem_placementBonuses layout

end

/-! ## Accounts -/

/-- While `P` holds of the game, `T` is an account of the operations of impacts of a turn from `g₀`, in
which `p` is to make the choices `cs`, and of the reactions to them. -/
structure Impact.Accounts (g₀ : Game) (p : PlayerId) (cs : List Choice) (Printed : Impact → Prop)
    (P : Game → Prop) (T : Game → List Operation → Prop) : Prop where
  nil (g : Game) : T g []
  append {g g₁ : Game} {os os' : List Operation} : T g os → g.executeAll os = .accepted g₁ →
    T g₁ os' → T g (os ++ os')
  keeps {g g' : Game} {os : List Operation} : P g → T g os → g.executeAll os = .accepted g' → P g'
  impact {g g' : Game} {i : Impact} {source : Option Int} {answer : List Choice}
    {ops : List Operation} {more : List Impact} : P g →
    g₀.Origin Printed i ∨ i.type = .gainResource → i.Does p source g answer ops more →
    answer ⊆ cs → g.executeAll ops = .accepted g' → T g ops
  reactions {g g' : Game} {i : Impact} : P g →
    g.executeAll (g.reactionsToImpact p i) = .accepted g' → T g (g.reactionsToImpact p i)

namespace Impact.Accounts

variable {g₀ g g' : Game} {p : PlayerId} {cs : List Choice} {Printed : Impact → Prop}
  {P : Game → Prop} {T : Game → List Operation → Prop} {source : Option Int}

/-- Bonuses, and those that they bring. -/
theorem settles {bonuses : List Impact} {answers : List Choice} {deeds : List Deed}
    (m : Accounts g₀ p cs Printed P T) (h : Settles p source g bonuses answers deeds g')
    (start : P g) (layout : g.board.spaces = g₀.board.spaces)
    (origin : ∀ i ∈ bonuses, g₀.Origin Printed i ∨ i.type = .gainResource) (among : answers ⊆ cs) :
    T g (deeds.flatMap Deed.operations) ∧
      g.executeAll (deeds.flatMap Deed.operations) = .accepted g' := by
  induction h with
  | nil g => exact ⟨m.nil g, rfl⟩
  | skipped _ _ ih => exact ih start layout (List.forall_mem_cons.1 origin).2 among
  | done does accepted _ ih =>
    obtain ⟨first, rest⟩ := List.forall_mem_cons.1 origin
    obtain ⟨used, later⟩ := List.append_subset.1 among
    have told := m.impact start first does used accepted
    obtain ⟨more, leads⟩ := ih (m.keeps start told accepted)
      ((Game.executeAll_spaces accepted).trans layout)
      (List.forall_mem_append.2 ⟨does.origin layout, rest⟩) later
    exact ⟨m.append told accepted more, Game.executeAll_trans accepted leads⟩

/-- What one impact of a queue comes to. -/
theorem ends {b : Block} (m : Accounts g₀ p cs Printed P T) (h : b.Ends p source g')
    (start : P b.game) (layout : b.game.board.spaces = g₀.board.spaces)
    (origin : g₀.Origin Printed b.impact) (among : b.answers ⊆ cs) :
    T b.game b.operations ∧ b.game.executeAll b.operations = .accepted g' := by
  cases h with
  | skipped => exact ⟨m.nil _, rfl⟩
  | @resolved i g g₁ g₂ _ _ _ _ ops more deeds does accepted settles concluded =>
    obtain ⟨used, later⟩ := List.append_subset.1 among
    have told := m.impact start (.inl origin) does used accepted
    have after := m.keeps start told accepted
    obtain ⟨bonuses, leads⟩ : T g₁ (deeds.flatMap Deed.operations) ∧
        g₁.executeAll (deeds.flatMap Deed.operations) = .accepted g₂ :=
      m.settles settles after ((Game.executeAll_spaces accepted).trans layout) (does.origin layout)
        later
    have gains := m.reactions (m.keeps after bonuses leads) concluded
    have settled := Game.executeAll_trans accepted leads
    exact ⟨m.append (m.append told accepted bonuses) settled gains,
      Game.executeAll_trans settled concluded⟩

theorem follow {blocks : List Block} (m : Accounts g₀ p cs Printed P T)
    (h : Block.Follow p source g blocks g') (start : P g)
    (layout : g.board.spaces = g₀.board.spaces)
    (origin : ∀ b ∈ blocks, g₀.Origin Printed b.impact) (among : ∀ b ∈ blocks, b.answers ⊆ cs) :
    T g (blocks.flatMap Block.operations) := by
  induction h with
  | nil g => exact m.nil g
  | cons met ends _ ih =>
    subst met
    obtain ⟨first, rest⟩ := List.forall_mem_cons.1 origin
    obtain ⟨used, later⟩ := List.forall_mem_cons.1 among
    obtain ⟨told, leads⟩ := m.ends ends start layout first used
    exact m.append told leads (ih (m.keeps start told leads)
      ((Game.executeAll_spaces leads).trans layout) rest later)

/-- **A resolution** is accounted for after what came before it; `Printed` holds of the impacts that are
resolved and of all options below them. -/
theorem resolve {queue : List Impact} {started : Progress} {a : Attempt}
    (m : Accounts g₀ p cs Printed P T) (h : resolve p source cs queue started = .ok a)
    (hg : a.game? = some g') (leads : started.From g₀) (start : P g₀)
    (before : T g₀ started.operations) (printed : ∀ i ∈ queue, i.Throughout Printed) :
    T g₀ a.operations := by
  obtain ⟨done, rest, blocks, rfl, unfolds⟩ := resolve_unfolds h hg
  obtain ⟨unused, rfl⟩ := unfolds.choices
  rw [unfolds.operations]
  refine m.append before leads (m.follow unfolds.follow (m.keeps start before leads)
    (Game.executeAll_spaces leads) (fun b hb => ?_) fun b hb c hc => ?_)
  · obtain ⟨i, hi, comes⟩ := exists_left_of_forall₂ unfolds.each hb
    exact .inl (printed i (List.mem_append_left _ hi) _ comes.mem_walk)
  · exact List.mem_append_left _ (List.mem_flatMap.2 ⟨b, hb, List.mem_append_right _ hc⟩)

/-- **A turn** is accounted for if its preliminaries are. -/
theorem begins {a : Attempt} {Printed' : Impact → Prop} (m : Accounts g₀ p cs Printed P T)
    (begins : g₀.Begins p cs Printed' a) (hg : a.game? = some g') (start : P g₀)
    (opening : ∀ {started : Progress}, g₀.Underway p started → T g₀ started.operations)
    (printed : ∀ i, Printed' i → i.Throughout Printed) : T g₀ a.operations := by
  cases begins with
  | refused r => cases hg
  | complete underway => exact opening underway
  | resolved underway among resolved =>
    exact m.resolve resolved hg underway.leads start (opening underway)
      fun i hi => printed i (among i hi)

end Impact.Accounts

/-! ## Turns -/

/-- A turn of `p` with the choices `cs`, or impacts that `p` takes up again; and the impacts that are
printed for it. -/
inductive Game.Acts (g : Game) (p : PlayerId) (cs : List Choice) : (Impact → Prop) → Attempt → Prop where
  | turn {action : TurnAction} {a : Attempt} : g.takeTurn p action cs = .ok a →
      Acts g p cs (g.Prints p action) a
  | resumption {impacts : List Impact} {source : Option Int} {a : Attempt} :
      g.resolve p impacts cs source = .ok a → Acts g p cs (· ∈ impacts) a

/-- The impact is one of those, or an option that one of them offers, however deep. -/
def Impact.Below (Printed : Impact → Prop) (i : Impact) : Prop := ∃ j, Printed j ∧ i ∈ j.walk

theorem Impact.throughout_below {Printed : Impact → Prop} {i : Impact} (h : Printed i) :
    i.Throughout (Below Printed) :=
  fun _ hj => ⟨i, h, hj⟩

theorem Game.Acts.begins {g : Game} {p : PlayerId} {cs : List Choice} {Printed : Impact → Prop}
    {a : Attempt} (acts : g.Acts p cs Printed a) : g.Begins p cs Printed a := by
  cases acts with
  | turn h => exact takeTurn_begins h
  | resumption h => exact .resolved (underway_start g p) (fun _ hi => hi) h

end Terraforming
