import Terraforming.Proofs.Game.Players
import Terraforming.Proofs.Player.Payment
import Terraforming.Proofs.Turn.Accounts
import Terraforming.Proofs.Turn.Entry
import Terraforming.Proofs.Turn.Gains
import Terraforming.Proofs.Turn.Outcomes

/-!
# What turns begin with

Before its impacts a turn pays, and what it pays is settled by the player as they are when it begins.
Taking a card into play comes next to the payment, with three types of operations that no impact and no
effect ever brings (`Operation.isEntry`): so these are found there and nowhere else.

* `Impact.resolve_aside`, `Game.aside_reactionsToCard` — no impact and no effect brings such an operation;
* `Game.playCard_charges`, `Game.performAction_charges`, `Game.performProject_charges` — what is paid for a
  card, an action or a project, and what comes after it.
-/

namespace Terraforming

/-! ## Operations of an entry -/

namespace Operation

/-- The operation takes a card into play, brings one of its effects, or uses up what was off its price. -/
def isEntry (o : Operation) : Bool :=
  o.type = .putCardIntoPlay || o.type = .consumeNextCardEffects || o.addsPassive

/-- None of the operations goes with taking a card into play. -/
def Aside (os : List Operation) : Prop := ∀ o ∈ os, o.isEntry = false

variable {o : Operation} {os os' : List Operation}

theorem isEntry_eq_false : o.isEntry = false ↔
    o.type ≠ .putCardIntoPlay ∧ o.type ≠ .consumeNextCardEffects ∧ o.addsPassive = false := by
  simp [isEntry, and_assoc]

namespace Aside

theorem nil : Aside [] := List.forall_mem_nil _

theorem cons (first : o.isEntry = false) (rest : Aside os) : Aside (o :: os) :=
  List.forall_mem_cons.2 ⟨first, rest⟩

theorem singleton (h : o.isEntry = false) : Aside [o] := cons h nil

theorem append (h : Aside os) (h' : Aside os') : Aside (os ++ os') :=
  List.forall_mem_append.2 ⟨h, h'⟩

theorem map {α : Type} {f : α → Operation} {as : List α} (h : ∀ a, (f a).isEntry = false) :
    Aside (as.map f) := by
  intro o ho
  obtain ⟨a, -, rfl⟩ := List.mem_map.1 ho
  exact h a

end Aside

end Operation

open Operation (Aside)

theorem aside_paymentOps (p : PlayerId) (payment : Pool) : Aside (paymentOps p payment) :=
  .map fun _ => rfl

theorem ActiveEffect.isEntry_gain {owner : PlayerId} {a : ActiveEffect} {o : Operation}
    (h : a.gain owner = some o) : o.isEntry = false := by
  simp only [gain] at h
  split at h <;> cases h <;> rfl

namespace Game

variable (g : Game) (actor : PlayerId)

theorem aside_reactionsToImpact (i : Impact) : Aside (g.reactionsToImpact actor i) := by
  intro o ho
  obtain ⟨p, q, a, -, -, gain⟩ := mem_reactionsToImpact ho
  exact ActiveEffect.isEntry_gain gain

theorem aside_reactionsToCard (c : Card) : Aside (g.reactionsToCard actor c) := by
  intro o ho
  obtain ⟨p, q, a, -, -, -, ⟨-, rfl⟩ | ⟨-, rfl⟩⟩ := mem_reactionsToCard ho <;> rfl

theorem aside_generationEnd : Aside g.generationEnd :=
  g.forall_generationEnd (fun _ => rfl) rfl rfl

end Game

namespace Impact

variable {i : Impact} {g g' : Game} {actor : PlayerId} {source : Option Int}

/-- No type of impact brings a card into play. -/
theorem entry_not_mem_emits (t : ImpactType) :
    .putCardIntoPlay ∉ t.emits ∧ .consumeNextCardEffects ∉ t.emits := by
  cases t <;> decide

theorem aside_of_leads {d : Demand i} {ops : List Operation} (hd : i.demand g actor source = .ok d)
    (leads : d.Leads ops) : Aside ops := by
  intro o ho
  have emitted := demand_emits hd ops leads o ho
  obtain ⟨put, consume⟩ := entry_not_mem_emits i.type
  refine Operation.isEntry_eq_false.2 ⟨?_, ?_, addsPassive_of_leads hd leads o ho⟩
  · intro type
    exact put (type ▸ emitted)
  · intro type
    exact consume (type ▸ emitted)

/-- What a turn resolves is accounted for as bringing nothing into play. -/
theorem accounts_aside (g₀ : Game) (p : PlayerId) (cs : List Choice) :
    Accounts g₀ p cs (fun _ => True) (fun _ => True) (fun _ os => Aside os) where
  nil _ := .nil
  append before _ after := before.append after
  keeps _ _ _ := trivial
  impact _ _ does _ _ := by
    obtain ⟨d, hd, yields⟩ := does
    exact aside_of_leads hd yields.leads
  reactions _ _ := Game.aside_reactionsToImpact _ _ _

/-- **A resolution** goes on from what came before it, and brings nothing into play. -/
theorem resolve_aside {cs : List Choice} {queue : List Impact} {started : Progress} {a : Attempt}
    (h : resolve actor source cs queue started = .ok a) (hg : a.game? = some g') :
    ∃ rest, a.operations = started.operations ++ rest ∧ Aside rest := by
  obtain ⟨done, later, blocks, -, unfolds⟩ := resolve_unfolds h hg
  have among : ∀ b ∈ blocks, b.answers ⊆ blocks.flatMap Block.answers := fun b hb c hc =>
    List.mem_flatMap.2 ⟨b, hb, hc⟩
  exact ⟨_, unfolds.operations, (accounts_aside started.game actor _).follow unfolds.follow trivial rfl
    (fun _ _ => .inl trivial) among⟩

end Impact

/-! ## Cards that are played -/

/-- What is read off the operations that bring a card into play is read off the card and its effects, if
nothing is read off payments, changes of production and the like. -/
theorem Game.flatMap_entryOps {α : Type} {f : Operation → List α} (p : PlayerId) (q : Player) (c : Card)
    (payment : Pool) (aside : ∀ o, o.isEntry = false → f o = [])
    (used : f (.consumeNextCardEffects p) = []) :
    (entryOps p q c payment).flatMap f = f (.putCardIntoPlay p c q.nextInstance) ++
      c.effects.flatMap fun e => f (.addEffect p q.nextInstance e) := by
  have none : ∀ {os}, Aside os → os.flatMap f = [] := fun h =>
    List.flatMap_eq_nil_iff.2 fun o ho => aside o (h o ho)
  have consumed : (if q.nextCardEffects.isEmpty then [] else
      [Operation.consumeNextCardEffects p]).flatMap f = [] := by
    split
    · rfl
    · rw [List.flatMap_singleton, used]
  have produced : ((Resource.all.filter fun r => c.ownChange r ≠ 0).map fun r =>
      Operation.changeProduction p (some r) (c.ownChange r)).flatMap f = [] := none (.map fun _ => rfl)
  simp only [entryOps, List.flatMap_append, none (aside_paymentOps p payment), consumed, produced,
    List.flatMap_singleton, List.flatMap_map, List.nil_append, List.append_nil]

namespace Game

variable {g g' : Game} {p : PlayerId} {q : Player} {c : Card} {cs : List Choice} {a : Attempt}

/-- **Playing a card** is paid for by the player as they are before it, and then the card comes into play.
What comes after its effects brings nothing into play. -/
theorem playCard_charges (h : g.playCard p c cs = .ok a) (hg : a.game? = some g') :
    ∃ q payment rest, g.player? p = some q ∧
      q.paymentFor (q.effectiveCost c) = .ok (some payment) ∧
      a.operations = entryOps p q c payment ++ rest ∧ Aside rest := by
  obtain ⟨q, hq, outcome⟩ := playCard_cases h
  cases outcome with
  | refused => cases hg
  | @resolved payment entered _ _ _ paid he hr resolved =>
    obtain ⟨rest, operations, aside⟩ := Impact.resolve_aside resolved hg
    have noted : entered.operations = entryOps p q c payment := (Progress.emit_eq_ok.1 he).2
    have reacted := (Progress.emit_eq_ok.1 hr).2
    refine ⟨q, payment, entered.game.reactionsToCard p c ++ rest, hq, paid, ?_,
      (entered.game.aside_reactionsToCard p c).append aside⟩
    rw [operations, reacted, noted, List.append_assoc]

end Game

/-! ## Actions -/

/-- What the player `q`, who is `p`, is charged for an action of the card `d` before its impacts. -/
inductive Action.Charges (p : PlayerId) (q : Player) (d : PlayedCard) (action : Action) :
    List Operation → Prop where
  | nothing : action.type = .causeFreeImpact → Charges p q d action []
  | resources {cost : Cost} {payment : Pool} :
      action.type = .spendResource ∨ action.type = .revealCardForTag → action.cost = some cost →
      q.paymentFor cost = .ok (some payment) → Charges p q d action (paymentOps p payment)
  | cardResource : action.type = .spendSameCardResource →
      Charges p q d action
        [.changeCardResource p d.instanceId action.cardResource (-action.count)]
  | production : action.type = .spendProduction →
      Charges p q d action [.changeProduction p action.resource (-action.count)]

namespace Action.Charges

variable {p : PlayerId} {q q' : Player} {d : PlayedCard} {action : Action} {price : List Operation}

theorem aside (charges : action.Charges p q d price) : Aside price := by
  cases charges with
  | nothing => exact .nil
  | resources => exact aside_paymentOps p _
  | cardResource | production => exact .singleton rfl

/-- Only balances and effects matter. -/
theorem congr (charges : action.Charges p q d price) (resources : q'.resources = q.resources)
    (effects : q'.effects = q.effects) : action.Charges p q' d price := by
  cases charges with
  | nothing type => exact .nothing type
  | resources type cost paid =>
    exact .resources type cost ((Player.paymentFor_congr resources effects _).trans paid)
  | cardResource type => exact .cardResource type
  | production type => exact .production type

end Action.Charges

namespace Game

variable {g g' : Game} {p : PlayerId} {cs : List Choice} {a : Attempt} {started : Progress}
  {action : Action} {d : PlayedCard} {i : Int}

/-- What is emitted before impacts, and what comes of them. -/
theorem payAndResolve_eq_ok {ops : List Operation} {impacts : List Impact}
    (h : payAndResolve p i ops impacts cs started = .ok a) (hg : a.game? = some g') :
    ∃ rest, a.operations = started.operations ++ (ops ++ rest) ∧ Aside rest := by
  obtain ⟨paid, hp, h⟩ := bind_eq_ok.1 h
  obtain ⟨rest, operations, aside⟩ := Impact.resolve_aside h hg
  refine ⟨rest, ?_, aside⟩
  rw [operations, (Progress.emit_eq_ok.1 hp).2, List.append_assoc]

/-- A card that is revealed is drawn and laid down, which is noted after the payment. -/
theorem operations_of_revealed {payment : Pool} {card : Card} {drawn shown : Progress}
    (hd : started.emit (paymentOps p payment ++ [.drawCards p 1]) = .ok drawn)
    (hs : drawn.emit [.discardCards p [card]] = .ok shown) :
    shown.operations =
      started.operations ++ (paymentOps p payment ++ [.drawCards p 1, .discardCards p [card]]) := by
  rw [(Progress.emit_eq_ok.1 hs).2, (Progress.emit_eq_ok.1 hd).2]
  simp only [List.append_assoc, List.cons_append, List.nil_append]

theorem RevealOutcome.charges {payment : Pool}
    (outcome : RevealOutcome p i payment action cs started a) (hg : a.game? = some g') :
    ∃ rest, a.operations = started.operations ++ (paymentOps p payment ++ rest) ∧ Aside rest := by
  cases outcome with
  | refused => cases hg
  | complete hd hs => exact ⟨_, operations_of_revealed hd hs, .cons rfl (.singleton rfl)⟩
  | @resolved card _ _ _ hd hs resolved =>
    obtain ⟨rest, operations, aside⟩ := Impact.resolve_aside resolved hg
    refine ⟨[.drawCards p 1, .discardCards p [card]] ++ rest, ?_, .cons rfl (.cons rfl aside)⟩
    rw [operations, operations_of_revealed hd hs, List.append_assoc, List.append_assoc]

/-- An action that is carried out is charged for, and then there are its impacts. -/
theorem UseOutcome.charges {q : Player} (outcome : UseOutcome p q d i action cs started a)
    (hg : a.game? = some g') :
    ∃ price rest, action.Charges p q d price ∧
      a.operations = started.operations ++ (price ++ rest) ∧ Aside rest := by
  cases outcome with
  | refused => cases hg
  | free type h =>
    obtain ⟨rest, noted⟩ := payAndResolve_eq_ok h hg
    exact ⟨_, rest, .nothing type, noted⟩
  | paid type cost paid h =>
    obtain ⟨rest, noted⟩ := payAndResolve_eq_ok h hg
    exact ⟨_, rest, .resources (.inl type) cost paid, noted⟩
  | cardResource type _ h =>
    obtain ⟨rest, noted⟩ := payAndResolve_eq_ok h hg
    exact ⟨_, rest, .cardResource type, noted⟩
  | production type _ h =>
    obtain ⟨rest, noted⟩ := payAndResolve_eq_ok h hg
    exact ⟨_, rest, .production type, noted⟩
  | revealed type cost paid outcome =>
    obtain ⟨rest, noted⟩ := outcome.charges hg
    exact ⟨_, rest, .resources (.inr type) cost paid, noted⟩

/-- Whoever uses an action has what they had, until they are charged for it. -/
theorem player_of_marked {q : Player} (h : g.executeAll [.markCardActionUsed p i] = .accepted g')
    (hq : g.player? p = some q) :
    ∃ q', g'.player? p = some q' ∧ q'.resources = q.resources ∧ q'.effects = q.effects := by
  obtain ⟨g₁, first, last⟩ := executeAll_cons_eq_accepted.1 h
  cases last
  obtain ⟨c, q', read, hq', fares⟩ := execute_fares first hq
  cases read
  cases fares with
  | own becomes =>
    cases becomes with
    | tapped => exact ⟨_, hq', rfl, rfl⟩
  | bystander | honored => exact ⟨_, hq', rfl, rfl⟩

/-- **An action** is marked as used and charged for, by the player as they are before it; what comes after
that brings nothing into play. -/
theorem performAction_charges {s : Option Int} {n : Int} (h : g.performAction p s n cs = .ok a)
    (hg : a.game? = some g') :
    ∃ q i d action price rest, g.player? p = some q ∧ s = some i ∧ q.played? i = some d ∧
      actionAt? d.card n = some action ∧ action.Charges p q d price ∧
      a.operations = .markCardActionUsed p i :: (price ++ rest) ∧ Aside rest := by
  obtain ⟨q, hq, outcome⟩ := performAction_cases h
  cases outcome with
  | refused => cases hg
  | used named hd _ there hm hq' outcome =>
    obtain ⟨marked, noted⟩ := Progress.emit_eq_ok.1 hm
    obtain ⟨price, rest, charges, operations, aside⟩ := outcome.charges hg
    obtain ⟨q₂, hq₂, resources, effects⟩ := player_of_marked marked hq
    obtain rfl := Option.some.inj (hq₂.symm.trans hq')
    have charged := charges.congr resources.symm effects.symm
    refine ⟨q, _, _, _, price, rest, hq, named, hd, there, charged, ?_, aside⟩
    rw [operations, noted]
    rfl

/-! ## Projects and honors -/

/-- **A project** is paid for at its printed cost. -/
theorem performProject_charges {project : StandardProject} (h : g.performProject p project cs = .ok a)
    (hg : a.game? = some g') :
    ∃ q payment rest, g.player? p = some q ∧ q.paymentFor project.cost = .ok (some payment) ∧
      a.operations = paymentOps p payment ++ rest ∧ Aside rest := by
  cases performProject_cases h with
  | refused => cases hg
  | resolved _ hq paid hp resolved =>
    obtain ⟨rest, operations, aside⟩ := Impact.resolve_aside resolved hg
    refine ⟨_, _, rest, hq, paid, ?_, aside⟩
    rw [operations, (Progress.emit_eq_ok.1 hp).2]
    rfl

theorem HonorOutcome.operations {reason : Option Refusal} {ops : List Operation}
    (outcome : g.HonorOutcome reason ops a) (hg : a.game? = some g') : a.operations = ops := by
  cases outcome with
  | refused => cases hg
  | complete _ hd => exact (Progress.emit_eq_ok.1 hd).2

/-- **A milestone** costs what all of them cost. -/
theorem claimMilestoneTurn_charges {name : Option String} (h : g.claimMilestoneTurn p name = .ok a)
    (hg : a.game? = some g') :
    a.operations = [.changeResources p (some .megacredits) (-Milestone.cost),
      .claimMilestone p (name.getD "")] := by
  obtain ⟨q, -, outcome⟩ := claimMilestoneTurn_cases h
  exact outcome.operations hg

/-- **An award** costs what the next one costs. -/
theorem fundAwardTurn_charges {name : Option String} (h : g.fundAwardTurn p name = .ok a)
    (hg : a.game? = some g') :
    a.operations = [.changeResources p (some .megacredits) (-(Award.costs.getD g.funded.size 0)),
      .fundAward p (name.getD "")] := by
  obtain ⟨q, -, outcome⟩ := fundAwardTurn_cases h
  exact outcome.operations hg

end Game

end Terraforming
