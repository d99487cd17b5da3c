import Terraforming.Proofs.Board.Standard
import Terraforming.Proofs.Card.Complete
import Terraforming.Proofs.Game.Books
import Terraforming.Proofs.Game.Inventory
import Terraforming.Proofs.Game.Marks
import Terraforming.Proofs.Game.Passives

/-!
# Games that have what they need

A computation crashes when something is missing or makes no sense: a field of an operation, a player, a
name, a value, a divisor.  In a game whose cards and effects have what they need, operations do not
crash if they are complete and about players who are there, and the game still has what it needs
afterwards.

* `Fault.isCrash`, `Runs` — computations that do not crash, and what they answer;
* `Game.Supplied` — the invariant; `Game.Onward` — what is kept on the way;
* `Game.execute_runs` — one operation; `Game.endures_of_suits`, `Game.endures_place` — several.
-/

namespace Terraforming

/-! ## Crashes -/

/-- The fault says that something is missing or makes no sense, and not that a rule is against it or that a
decision is due. -/
def Fault.isCrash : Fault → Bool
  | .violation (.missingFields _ _) => true
  | .violation _ | .undecidedBonus _ => false
  | .misuse _ | .zeroDivisor | .unlisted | .unset => true

theorem Fault.isCrash_of_isObjection {f : Fault} (h : f.isObjection = true) : f.isCrash = false := by
  cases f with
  | violation v => cases v <;> first | rfl | cases h
  | _ => cases h

/-- The computation does not crash, and what it answers has the property. -/
def Runs {α : Type} (x : Except Fault α) (P : α → Prop) : Prop :=
  match x with
  | .ok a => P a
  | .error f => f.isCrash = false

namespace Runs

variable {α β : Type} {x : Except Fault α} {P Q : α → Prop} {a : α} {f : Fault}

theorem of_ok (hx : x = .ok a) (h : P a) : Runs x P := by
  rw [hx]
  exact h

theorem iff_gives : Runs x P ↔ Gives x P (·.isCrash = false) := by
  cases x <;> exact Iff.rfl

theorem holds (h : Runs x P) (hx : x = .ok a) : P a := by
  rw [hx] at h
  exact h

theorem safe (h : Runs x P) (hx : x = .error f) : f.isCrash = false := by
  rw [hx] at h
  exact h

theorem bind {next : α → Except Fault β} {R : β → Prop} (h : Runs x P)
    (then_ : ∀ a, P a → Runs (next a) R) : Runs (x >>= next) R := by
  cases x with
  | ok a => exact then_ a h
  | error f => exact h

theorem mono (h : Runs x P) (more : ∀ a, P a → Q a) : Runs x Q := by
  cases x with
  | ok a => exact more a h
  | error f => exact h

theorem map {g : α → β} {R : β → Prop} (h : Runs x fun a => R (g a)) : Runs (x.map g) R := by
  cases x with
  | ok a => exact h
  | error f => exact h

end Runs

/-! ## Supplied games -/

namespace Game

variable {g g' g'' left : Game} {p : PlayerId} {q : Player} {c : Card} {o : Operation}
  {os : List Operation} {f : Fault}

/-- The game is on the standard layout, and every card and every effect in it has what it needs. -/
structure Supplied (g : Game) : Prop where
  layout : g.board.spaces = Board.standard.spaces
  cards : ∀ c ∈ g.cards, c.supplied = true
  effects : ∀ p q, g.player? p = some q → ∀ a ∈ q.effects, a.effect.complete = true

/-- The cards have what they need exactly when they do as far as they can be told apart. -/
theorem forall_supplied_iff {cards : List Card} :
    (∀ c ∈ cards, c.supplied = true) ↔ ∀ c ∈ tally cards, c.supplied = true := by
  rw [tally_eq_map]
  constructor
  · intro supplied d hd
    obtain ⟨c, hc, rfl⟩ := Multiset.mem_map.1 hd
    exact supplied c hc
  · intro supplied c hc
    exact supplied c.normal (Multiset.mem_map.2 ⟨c, hc, rfl⟩)

theorem forall_effects_iff {P : ActiveEffect → Prop} :
    (∀ p q, g.player? p = some q → ∀ a ∈ q.effects, P a) ↔
      ∀ p es, g.passives.get? p = some es → ∀ a ∈ es, P a := by
  simp only [get?_passives, Option.map_eq_some_iff]
  constructor
  · rintro each p _ ⟨q, hq, rfl⟩
    exact each p q hq
  · exact fun each p q hq => each p q.effects ⟨q, hq, rfl⟩

theorem mem_cards_of_hand (hq : g.player? p = some q) (hc : c ∈ q.hand) : c ∈ g.cards :=
  mem_cards_of_loose (mem_loose_of_hand hq hc)

theorem mem_cards_of_played {d : PlayedCard} (hq : g.player? p = some q) (hd : d ∈ q.played) :
    d.card ∈ g.cards := by
  have there : q ∈ g.players.values := List.mem_map.2 ⟨(p, q), Table.get?_eq_some_iff.1 hq, rfl⟩
  refine List.mem_append_left _ (List.mem_append_left _ (List.mem_flatMap.2 ⟨q, there, ?_⟩))
  exact List.mem_append_right _ (List.mem_map.2 ⟨d, hd, rfl⟩)

namespace Supplied

theorem after (supplied : g.Supplied) (spaces : g'.board.spaces = g.board.spaces)
    (cards : ∀ c ∈ g'.inventory, c ∈ g.inventory ∨ c.supplied = true)
    (effects : ∀ p es, g'.passives.get? p = some es → ∀ a ∈ es, a.effect.complete = true) :
    g'.Supplied := by
  have before : ∀ c ∈ g.inventory, c.supplied = true := forall_supplied_iff.1 supplied.cards
  refine ⟨spaces.trans supplied.layout, forall_supplied_iff.2 fun c hc => ?_,
    forall_effects_iff.2 effects⟩
  exact (cards c hc).elim (before c) id

/-- Of cards and effects only what they are matters, not where. -/
theorem of_same (supplied : g.Supplied) (spaces : g'.board.spaces = g.board.spaces)
    (cards : g'.inventory = g.inventory) (effects : g'.passives = g.passives) : g'.Supplied :=
  supplied.after spaces (fun _ hc => .inl (cards ▸ hc))
    (effects ▸ forall_effects_iff.1 supplied.effects)

theorem holds (supplied : g.Supplied) (hq : g.player? p = some q) (held : q.holds c = true) :
    c.supplied = true := by
  obtain ⟨d, hd, same⟩ := List.contains_iff_exists_mem_beq.1 held
  exact Card.supplied_of_normal (Card.normal_eq_of_beq same)
    (supplied.cards d (mem_cards_of_hand hq hd))

theorem played (supplied : g.Supplied) (hq : g.player? p = some q) {d : PlayedCard}
    (hd : d ∈ q.played) : d.card.supplied = true :=
  supplied.cards d.card (mem_cards_of_played hq hd)

end Supplied

/-- From `g` on the same players are there, and everything still has what it needs. -/
structure Onward (g g' : Game) : Prop where
  supplied : g'.Supplied
  ids : g'.playerIds = g.playerIds

namespace Onward

theorem refl (supplied : g.Supplied) : g.Onward g := ⟨supplied, rfl⟩

theorem trans (h : g.Onward g') (h' : g'.Onward g'') : g.Onward g'' :=
  ⟨h'.supplied, h'.ids.trans h.ids⟩

end Onward

end Game

/-! ## Commands -/

/-- The command is about somebody who is there, if it is about anybody; its tile goes to an empty space; an
effect that it adds has what it needs; and it is no purchase. -/
structure Command.Fits (g : Game) (c : Command) : Prop where
  about : ∀ p, c.player? = some p → p ∈ g.playerIds
  empty : ∀ l t, c = .placeTile l t → (g.board.status l).isEmpty = true
  complete : ∀ p source e, c = .addEffect p source e → e.complete = true
  unbought : ∀ p cards, c ≠ .purchaseCards p cards

namespace Game

variable {g g' g'' left : Game} {p : PlayerId} {q : Player} {c : Command} {o : Operation}
  {os : List Operation} {f : Fault}

theorem run_objects_of_fits (fits : c.Fits g) : Objects (g.run c) := by
  refine run_objects (fun p hp => mem_playerIds.1 (fits.about p hp)) (fun l t here => ?_)
    fun p cards q here => absurd here (fits.unbought p cards)
  have kind : (g.board.status l).kind = .empty := of_decide_eq_true (fits.empty l t here)
  rw [Tile.text?, kind]
  rfl

theorem Supplied.run (supplied : g.Supplied) (fits : c.Fits g) (h : g.run c = .ok g') :
    g'.Supplied := by
  refine supplied.after (run_entered h).spaces
    (fun c hc => .inl (inventory_run h fits.unbought ▸ hc)) ?_
  rcases run_passives h with same | ⟨p, q, i, e, rfl, hq, added⟩
  · rw [same]
    exact forall_effects_iff.1 supplied.effects
  · rw [added]
    refine Table.forall_insert (forall_effects_iff.1 supplied.effects) ?_
    rw [List.forall_mem_append, List.forall_mem_singleton]
    exact ⟨supplied.effects p q hq, fits.complete p (some i) e rfl⟩

/-- **An operation whose command fits** does not crash. -/
theorem execute_runs (supplied : g.Supplied) (read : o.command? = .ok c) (fits : c.Fits g) :
    Runs (g.execute o).toExcept g.Onward := by
  have objects := execute_objects read (run_objects_of_fits fits)
  cases h : g.execute o with
  | accepted g' =>
    refine .of_ok rfl ⟨?_, playerIds_execute h⟩
    obtain ⟨c', g₁, read', carried, rfl⟩ := execute_eq_accepted.1 h
    cases read.symm.trans read'
    exact (supplied.run fits carried).of_same rfl rfl rfl
  | refused f left =>
    rw [h] at objects
    exact Fault.isCrash_of_isObjection (objects f rfl)

/-- What a refusal leaves is supplied as well. -/
theorem refused_onward (supplied : g.Supplied) (h : g.execute o = .refused f left) :
    g.Onward left := by
  have unmarked := unmarked_of_refused h
  exact ⟨supplied.of_same (congrArg Board.spaces unmarked.board) (inventory_refused h)
    (passives_of_refused h), unmarked.playerIds⟩

end Game

/-! ## Operations one after the other -/

/-- The command is no purchase and puts down no tile, and an effect that it adds has what it needs. -/
def Command.Harmless : Command → Prop
  | .placeTile _ _ | .purchaseCards _ _ => False
  | .addEffect _ _ e => e.complete = true
  | _ => True

/-- The operation is complete, and its command is harmless and about one of the players, if it is about
anybody.  This does not change on the way. -/
def Operation.Suits (ids : List PlayerId) (o : Operation) : Prop :=
  ∃ c, o.command? = .ok c ∧ c.Harmless ∧ ∀ p, c.player? = some p → p ∈ ids

theorem Operation.Suits.of {ids : List PlayerId} {o : Operation} {c : Command} {p : PlayerId}
    (hp : p ∈ ids) (read : o.command? = .ok c) (about : c.player? = some p) (harmless : c.Harmless) :
    o.Suits ids := by
  refine ⟨c, read, harmless, fun p' hp' => ?_⟩
  obtain rfl : p = p' := Option.some.inj (about.symm.trans hp')
  exact hp

theorem Command.Harmless.fits {g : Game} {c : Command} (harmless : c.Harmless)
    (about : ∀ p, c.player? = some p → p ∈ g.playerIds) : c.Fits g where
  about := about
  empty := by
    rintro l t rfl
    exact harmless.elim
  complete := by
    rintro p source e rfl
    exact harmless
  unbought := by
    rintro p cards rfl
    exact harmless

namespace Game

variable {g g' : Game} {p : PlayerId} {o : Operation} {os : List Operation}

/-- The operations do not crash, and lead to a game that is supplied. -/
def Endures (g : Game) (os : List Operation) : Prop := Runs (g.executeAll os).toExcept g.Onward

theorem Endures.cons (first : Runs (g.execute o).toExcept g.Onward)
    (rest : ∀ g', g.Onward g' → g'.Endures os) : g.Endures (o :: os) := by
  rw [Endures, toExcept_executeAll_cons]
  exact first.bind fun g₁ onward => (rest g₁ onward).mono fun _ => onward.trans

theorem endures_of_suits (supplied : g.Supplied) (suits : ∀ o ∈ os, o.Suits g.playerIds) :
    g.Endures os := by
  induction os generalizing g with
  | nil => exact .of_ok rfl (.refl supplied)
  | cons o os ih =>
    obtain ⟨⟨c, read, harmless, about⟩, rest⟩ := List.forall_mem_cons.1 suits
    refine .cons (execute_runs supplied read (harmless.fits about)) fun g₁ onward => ?_
    exact ih onward.supplied (onward.ids ▸ rest)

theorem endures_singleton (supplied : g.Supplied) (suits : o.Suits g.playerIds) : g.Endures [o] :=
  endures_of_suits supplied (List.forall_mem_singleton.2 suits)

/-- A tile that goes to an empty space may come first. -/
theorem endures_place {l : Location} {t : Tile} (supplied : g.Supplied)
    (read : o.command? = .ok (.placeTile l t)) (empty : (g.board.status l).isEmpty = true)
    (suits : ∀ o ∈ os, o.Suits g.playerIds) : g.Endures (o :: os) := by
  have fits : (Command.placeTile l t).Fits g :=
    { about := by rintro _ ⟨⟩
      empty := by
        rintro _ _ ⟨⟩
        exact empty
      complete := by rintro _ _ _ ⟨⟩
      unbought := by rintro _ _ ⟨⟩ }
  exact .cons (execute_runs supplied read fits) fun g₁ onward =>
    endures_of_suits onward.supplied (onward.ids ▸ suits)

end Game

end Terraforming
