import Terraforming.Proofs.Game.Bystanders
import Terraforming.Proofs.Turn.Outcomes
import Terraforming.Proofs.Turn.Outline
import Terraforming.Proofs.Turn.Progress

/-!
# How turns begin

Every turn has the same shape.  It begins with operations that ask nothing of the board and raise
nothing: payments, the card that comes into play, reactions to it, an action that is marked as used.
They are about the player whose turn it is, but for the reactions of what others have in play.
Then the impacts that are printed for it are resolved, or there are none and it is complete.

* `Game.Begins` — this shape, with the impacts that may be resolved;
* `Game.takeTurn_begins` — every action of every type, one lemma for each way to take a turn.
-/

namespace Terraforming

/-! ## Preliminaries -/

/-- The types of the operations that come before the impacts of a turn. -/
def OperationType.isPreliminary : OperationType → Bool
  | changeResources | changeProduction | changeCardResource | drawCards | discardCards
  | putCardIntoPlay | addEffect | consumeNextCardEffects | markCardActionUsed | claimMilestone
  | fundAward => true
  | _ => false

namespace Operation

/-- The operation is of such a type. -/
def isPreliminary (o : Operation) : Bool := o.type.isPreliminary

/-- All of the operations are preliminary. -/
def Preliminaries (os : List Operation) : Prop := ∀ o ∈ os, o.isPreliminary = true

theorem Preliminaries.append {os os' : List Operation} (h : Preliminaries os)
    (h' : Preliminaries os') : Preliminaries (os ++ os') :=
  List.forall_mem_append.2 ⟨h, h'⟩

/-- All of the operations are preliminary, and about `p`. -/
def Opens (p : PlayerId) (os : List Operation) : Prop :=
  ∀ o ∈ os, o.isPreliminary = true ∧ o.player = some p

namespace Opens

variable {p : PlayerId} {o : Operation} {os os' : List Operation}

theorem nil : Opens p [] := List.forall_mem_nil _

theorem cons (first : o.isPreliminary = true) (own : o.player = some p) (rest : Opens p os) :
    Opens p (o :: os) :=
  List.forall_mem_cons.2 ⟨⟨first, own⟩, rest⟩

theorem singleton (h : o.isPreliminary = true) (own : o.player = some p) : Opens p [o] :=
  cons h own nil

theorem append (h : Opens p os) (h' : Opens p os') : Opens p (os ++ os') :=
  List.forall_mem_append.2 ⟨h, h'⟩

theorem map {α : Type} {f : α → Operation} {as : List α}
    (h : ∀ a, (f a).isPreliminary = true ∧ (f a).player = some p) : Opens p (as.map f) := by
  intro o ho
  obtain ⟨a, -, rfl⟩ := List.mem_map.1 ho
  exact h a

theorem preliminaries (h : Opens p os) : Preliminaries os := fun o ho => (h o ho).1

/-- Nobody else is touched. -/
theorem passes {r : PlayerId} (h : Opens p os) (other : r ≠ p) : ∀ o ∈ os, o.Passes r := by
  intro o ho
  obtain ⟨preliminary, own⟩ := h o ho
  refine ⟨fun about => other (Option.some.inj (about.symm.trans own)), fun type => ?_⟩
  rw [isPreliminary, type] at preliminary
  cases preliminary

end Opens

end Operation

open Operation (Preliminaries Opens)

theorem opens_paymentOps (p : PlayerId) (payment : Pool) : Opens p (paymentOps p payment) :=
  .map fun _ => ⟨rfl, rfl⟩

theorem ActiveEffect.isPreliminary_gain {owner : PlayerId} {a : ActiveEffect} {o : Operation}
    (h : a.gain owner = some o) : o.isPreliminary = true := by
  simp only [gain] at h
  split at h <;> cases h <;> rfl

namespace Game

variable {g g' : Game} {p : PlayerId} {q : Player} {cs : List Choice} {a : Attempt}

theorem preliminaries_reactionsToImpact (g : Game) (actor : PlayerId) (i : Impact) :
    Preliminaries (g.reactionsToImpact actor i) := by
  intro o ho
  obtain ⟨p, q, a, -, -, gain⟩ := mem_reactionsToImpact ho
  exact ActiveEffect.isPreliminary_gain gain

theorem preliminaries_reactionsToCard (g : Game) (actor : PlayerId) (c : Card) :
    Preliminaries (g.reactionsToCard actor c) := by
  intro o ho
  obtain ⟨p, q, a, -, -, -, ⟨-, rfl⟩ | ⟨-, rfl⟩⟩ := mem_reactionsToCard ho <;> rfl

theorem opens_entryOps (p : PlayerId) (q : Player) (c : Card) (payment : Pool) :
    Opens p (entryOps p q c payment) := by
  rw [entryOps_eq]
  refine (opens_paymentOps p payment).append (.cons rfl rfl ?_)
  refine .append (.append ?_ (.map fun _ => ⟨rfl, rfl⟩)) (.map fun _ => ⟨rfl, rfl⟩)
  split
  · exact .nil
  · exact .singleton rfl rfl

/-! ## The shape of a turn -/

/-- What introduces a turn of `p` from `g` is about `p`, or it is a reaction to a card. -/
def Introduces (g : Game) (p : PlayerId) (o : Operation) : Prop :=
  o.player = some p ∨ ∃ c, o ∈ g.reactionsToCard p c

/-- A stretch of a turn of `p` that has led from `g` here by preliminaries. -/
structure Underway (g : Game) (p : PlayerId) (started : Progress) : Prop where
  leads : started.From g
  preliminaries : Preliminaries started.operations
  introduces : ∀ o ∈ started.operations, g.Introduces p o

theorem underway_start (g : Game) (p : PlayerId) : g.Underway p { game := g } :=
  ⟨Progress.from_start g, List.forall_mem_nil _, List.forall_mem_nil _⟩

namespace Underway

variable {started next : Progress} {ops : List Operation}

theorem append (underway : g.Underway p started) (preliminaries : Preliminaries ops)
    (introduces : ∀ o ∈ ops, g.Introduces p o) (h : started.emit ops = .ok next) :
    g.Underway p next := by
  have noted := (Progress.emit_eq_ok.1 h).2
  refine ⟨underway.leads.emit h, ?_, ?_⟩
  · rw [noted]
    exact underway.preliminaries.append preliminaries
  · rw [noted]
    exact List.forall_mem_append.2 ⟨underway.introduces, introduces⟩

theorem emit (underway : g.Underway p started) (opens : Opens p ops)
    (h : started.emit ops = .ok next) : g.Underway p next :=
  underway.append opens.preliminaries (fun o ho => .inl (opens o ho).2) h

end Underway

/-- While only `p` is touched, the effects of the others stay as they were. -/
theorem introduces_of_mem_reactionsToCard {c : Card} {o : Operation}
    (others : ∀ r, r ≠ p → g'.player? r = g.player? r) (ho : o ∈ g'.reactionsToCard p c) :
    g.Introduces p o := by
  obtain ⟨r, q, a, hq, ha, reacts⟩ := mem_reactions ho
  by_cases own : r = p
  · obtain ⟨-, ⟨-, rfl⟩ | ⟨-, rfl⟩⟩ := ActiveEffect.onCard_cases reacts
    · exact .inl (congrArg some own)
    · exact .inl (congrArg some own)
  · exact .inr ⟨c, mem_reactions_of (others r own ▸ hq) ha reacts⟩

/-- A turn of `p` from `g`: it is refused, or after preliminaries it is complete, or some impacts of
those that are printed for it are resolved. -/
inductive Begins (g : Game) (p : PlayerId) (cs : List Choice) (Printed : Impact → Prop) :
    Attempt → Prop
  | refused (r : Refusal) : Begins g p cs Printed (.unplayable r)
  | complete {done : Progress} : g.Underway p done →
      Begins g p cs Printed (.complete done.operations done.game)
  | resolved {started : Progress} {source : Option Int} {impacts : List Impact} {a : Attempt} :
      g.Underway p started → (∀ i ∈ impacts, Printed i) →
      Impact.resolve p source cs impacts started = .ok a → Begins g p cs Printed a

/-- More may be printed. -/
theorem Begins.mono {Printed Printed' : Impact → Prop} (begins : g.Begins p cs Printed a)
    (more : ∀ i, Printed i → Printed' i) : g.Begins p cs Printed' a := by
  cases begins with
  | refused r => exact .refused r
  | complete underway => exact .complete underway
  | resolved underway printed resolved =>
    exact .resolved underway (fun i hi => more i (printed i hi)) resolved

/-! ## Every way to take a turn -/

theorem playCard_begins {c : Card} (h : g.playCard p c cs = .ok a) :
    g.Begins p cs (· ∈ playImpacts c) a := by
  obtain ⟨q, -, outcome⟩ := playCard_cases h
  cases outcome with
  | refused r => exact .refused r
  | @resolved payment entered _ _ _ _ he hr resolved =>
    have opens := opens_entryOps p q c payment
    have others : ∀ r, r ≠ p → entered.game.player? r = g.player? r := fun r other =>
      executeAll_bystander (opens.passes other) (Progress.emit_eq_ok.1 he).1
    have underway := ((underway_start g p).emit opens he).append
      (entered.game.preliminaries_reactionsToCard p c)
      (fun o ho => introduces_of_mem_reactionsToCard others ho) hr
    exact .resolved underway (fun _ hi => hi) resolved

theorem payAndResolve_begins {i : Int} {ops : List Operation} {impacts : List Impact}
    {started : Progress} (underway : g.Underway p started) (opens : Opens p ops)
    (h : payAndResolve p i ops impacts cs started = .ok a) : g.Begins p cs (· ∈ impacts) a := by
  obtain ⟨paid, hp, h⟩ := bind_eq_ok.1 h
  exact .resolved (underway.emit opens hp) (fun _ hi => hi) h

/-- A card that is drawn and laid down is among the preliminaries. -/
theorem Underway.reveal {payment : Pool} {card : Card} {started drawn shown : Progress}
    (underway : g.Underway p started)
    (hd : started.emit (paymentOps p payment ++ [.drawCards p 1]) = .ok drawn)
    (hs : drawn.emit [.discardCards p [card]] = .ok shown) : g.Underway p shown := by
  have drawing := (opens_paymentOps p payment).append (.singleton (o := .drawCards p 1) rfl rfl)
  exact (underway.emit drawing hd).emit (.singleton rfl rfl) hs

theorem UseOutcome.begins {d : PlayedCard} {i : Int} {action : Action} {started : Progress}
    (underway : g.Underway p started) (outcome : UseOutcome p q d i action cs started a) :
    g.Begins p cs (· ∈ action.impacts) a := by
  cases outcome with
  | refused r => exact .refused r
  | free _ h => exact payAndResolve_begins underway .nil h
  | paid _ _ _ h => exact payAndResolve_begins underway (opens_paymentOps p _) h
  | cardResource _ _ h | production _ _ h =>
    exact payAndResolve_begins underway (.singleton rfl rfl) h
  | revealed _ _ _ outcome =>
    cases outcome with
    | refused r => exact .refused r
    | complete hd hs => exact .complete (underway.reveal hd hs)
    | resolved hd hs h => exact .resolved (underway.reveal hd hs) (fun _ hi => hi) h

/-- An impact is printed for an action of a card that a player has in play under an id. -/
def PrintedInPlay (g : Game) (p : PlayerId) (s : Option Int) (i : Impact) : Prop :=
  ∃ q n d, g.player? p = some q ∧ s = some n ∧ q.played? n = some d ∧
    ∃ action ∈ d.card.actions, i ∈ action.impacts

theorem performAction_begins {s : Option Int} {n : Int} (h : g.performAction p s n cs = .ok a) :
    g.Begins p cs (g.PrintedInPlay p s) a := by
  obtain ⟨q, hq, outcome⟩ := performAction_cases h
  cases outcome with
  | refused r => exact .refused r
  | used named hd _ there hm _ outcome =>
    have underway := (underway_start g p).emit (.singleton rfl rfl) hm
    refine (outcome.begins underway).mono fun j hj => ?_
    exact ⟨q, _, _, hq, named, hd, _, mem_actions_of_actionAt? there, hj⟩

theorem performProject_begins {project : StandardProject}
    (h : g.performProject p project cs = .ok a) : g.Begins p cs (· ∈ project.impacts) a := by
  cases performProject_cases h with
  | refused r => exact .refused r
  | resolved _ _ _ hp h =>
    exact .resolved ((underway_start g p).emit (opens_paymentOps p _) hp) (fun _ hi => hi) h

theorem HonorOutcome.begins {reason : Option Refusal} {ops : List Operation}
    {Printed : Impact → Prop} (outcome : g.HonorOutcome reason ops a) (opens : Opens p ops) :
    g.Begins p cs Printed a := by
  cases outcome with
  | refused r => exact .refused r
  | complete _ hd => exact .complete ((underway_start g p).emit opens hd)

theorem claimMilestoneTurn_begins {name : Option String} {Printed : Impact → Prop}
    (h : g.claimMilestoneTurn p name = .ok a) : g.Begins p cs Printed a := by
  obtain ⟨q, -, outcome⟩ := claimMilestoneTurn_cases h
  exact outcome.begins (.cons rfl rfl (.singleton rfl rfl))

theorem fundAwardTurn_begins {name : Option String} {Printed : Impact → Prop}
    (h : g.fundAwardTurn p name = .ok a) : g.Begins p cs Printed a := by
  obtain ⟨q, -, outcome⟩ := fundAwardTurn_cases h
  exact outcome.begins (.cons rfl rfl (.singleton rfl rfl))

/-- The impacts that are printed for an action of `p`. -/
inductive Prints (g : Game) (p : PlayerId) (action : TurnAction) (i : Impact) : Prop where
  | played {c : Card} : action.type = .playCard → action.card = some c → i ∈ playImpacts c →
      Prints g p action i
  | inPlay : action.type = .performAction → g.PrintedInPlay p action.instanceId i →
      Prints g p action i
  | project {project : StandardProject} : action.project = some project → i ∈ project.impacts →
      Prints g p action i

/-- **Every turn** begins with preliminaries, and resolves the impacts that are printed for it. -/
theorem takeTurn_begins {action : TurnAction} (h : g.takeTurn p action cs = .ok a) :
    g.Begins p cs (g.Prints p action) a := by
  cases takeTurn_cases h with
  | card type hc h => exact (playCard_begins h).mono fun i hi => .played type hc hi
  | inPlay type h => exact (performAction_begins h).mono fun i hi => .inPlay type hi
  | project _ hp h => exact (performProject_begins h).mono fun i hi => .project hp hi
  | milestone _ h => exact claimMilestoneTurn_begins h
  | award _ h => exact fundAwardTurn_begins h
  | pass => exact .complete (underway_start g p)

end Game

end Terraforming
