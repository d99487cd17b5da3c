import Terraforming.Proofs.Board.Labels
import Terraforming.Proofs.Game.Log
import Terraforming.Proofs.Game.Sound

/-!
# Failing with violations

An operation that would corrupt a game fails as a violation.  It could fail otherwise in three ways:
it names a player who is not there, the player has no entry for megacredits at all, or it meets a tile
that cannot be shown.  Where there are such entries and labels, operations leave them there.

* `Game.Equipped` — everybody has an entry for megacredits, and every tile is labelled;
* `Game.run_equipped`, `Game.executeAll_equipped` — operations keep it so;
* `Game.run_objects` — every command, and that a rule is against it when it fails;
* `Game.execute_violates` — an operation that names somebody who is there, or nobody, can only fail as a
  violation.
-/

namespace Terraforming

/-! ## Purses and labels -/

/-- The player has an entry for megacredits, if only of nothing. -/
def Player.Purse (q : Player) : Prop := (q.resources.get? .megacredits).isSome = true

theorem Player.Purse.insert {q : Player} (purse : q.Purse) (r : Resource) (n : Int) :
    { q with resources := q.resources.insert r n }.Purse := by
  show ((q.resources.insert r n).get? .megacredits).isSome = true
  rw [Table.get?_insert]
  split
  · rfl
  · exact purse

/-- A pool that lists every resource has such an entry. -/
theorem purse_ofList (f : Resource → Int) :
    ((Table.ofList (Resource.all.map fun r => (r, f r))).get? .megacredits).isSome = true := rfl

/-- A command on the affairs of a player leaves them with such an entry. -/
theorem Player.Becomes.purse {p : PlayerId} {q q' : Player} {c : Command}
    (becomes : q.Becomes p c q') (purse : q.Purse) : q'.Purse := by
  cases becomes with
  | resources | purchase => exact purse.insert _ _
  | produced => exact purse_ofList _
  | _ => exact purse

namespace Game

variable {g g' : Game} {p : PlayerId} {q : Player} {c : Command} {o : Operation}

/-- Everybody has an entry for megacredits, and every tile is labelled. -/
structure Equipped (g : Game) : Prop where
  purses : ∀ p q, g.player? p = some q → q.Purse
  labels : g.board.Labelled

namespace Equipped

theorem withPlayer (equipped : g.Equipped) (purse : q.Purse) : (g.withPlayer p q).Equipped :=
  ⟨Table.forall_insert equipped.purses purse, equipped.labels⟩

/-- Only players and board matter. -/
theorem of_same (equipped : g.Equipped) (players : g'.players = g.players)
    (board : g'.board = g.board) : g'.Equipped := by
  refine ⟨fun p q hq => ?_, board ▸ equipped.labels⟩
  rw [player?, players] at hq
  exact equipped.purses p q hq

theorem deal (equipped : g.Equipped) (hq : g.player? p = some q) (n : Nat) :
    (g.deal p q n).Equipped := by
  have taken : { g with deck := g.deck.drop n }.Equipped := equipped.of_same rfl rfl
  exact taken.withPlayer (equipped.purses p q hq)

theorem resetCardActions (equipped : g.Equipped) : g.resetCardActions.Equipped := by
  refine ⟨fun p q hq => ?_, equipped.labels⟩
  rw [player?, Game.resetCardActions, Table.get?_mapValues] at hq
  obtain ⟨q₀, hq₀, rfl⟩ := Option.map_eq_some_iff.1 hq
  exact equipped.purses p q₀ hq₀

end Equipped

theorem discardAll_equipped (cards : List Card) (equipped : g.Equipped)
    (hq : g.player? p = some q) : (discardAll p cards q g).game.Equipped := by
  refine discardAll_keeps cards hq ?_ equipped
  intro h q c hq _ equipped
  have piled : { h with discard := h.discard ++ [c] }.Equipped := equipped.of_same rfl rfl
  have purse : { q with hand := q.hand.erase c }.Purse := equipped.purses p q hq
  exact piled.withPlayer purse

/-- A command that puts down labelled tiles only and is carried out takes nothing of this away. -/
theorem run_equipped (equipped : g.Equipped) (labelled : c.Labelled) (h : g.run c = .ok g') :
    g'.Equipped := by
  cases run_iff.1 h with
  | @alone c p q q' hq becomes => exact equipped.withPlayer (becomes.purse (equipped.purses p q hq))
  | dealt hq => exact equipped.deal hq _
  | reshuffled hq =>
    have shuffled : g.reshuffle.Equipped := equipped.of_same rfl rfl
    exact shuffled.deal hq _
  | discarded hq => exact discardAll_equipped _ equipped hq
  | tile placed => exact ⟨equipped.purses, equipped.labels.place labelled placed⟩
  | temperature | oxygen =>
    obtain ⟨cities, greeneries, specialTiles⟩ := equipped.labels
    exact ⟨equipped.purses, cities, greeneries, specialTiles⟩
  | untapped => exact equipped.resetCardActions
  | generation | milestone | award => exact equipped.of_same rfl rfl

theorem execute_equipped (equipped : g.Equipped) (h : g.execute o = .accepted g') :
    g'.Equipped := by
  obtain ⟨c, g₁, hc, hr, rfl⟩ := execute_eq_accepted.1 h
  exact (run_equipped equipped (Operation.command_labelled hc) hr).of_same rfl rfl

/-- So do operations one after the other. -/
theorem executeAll_equipped {os : List Operation} (equipped : g.Equipped)
    (h : g.executeAll os = .accepted g') : g'.Equipped :=
  executeAll_keeps h (fun _ _ _ _ equipped ho => execute_equipped equipped ho) equipped

end Game

/-! ## Failing with violations -/

/-- The computation fails with violations only. -/
def Violates {α : Type} (x : Except Fault α) : Prop := ∀ f, x = .error f → ∃ v, f = .violation v

/-- The fault is a violation, and not that an operation lacks a field. -/
def Fault.isObjection : Fault → Bool
  | .violation (.missingFields _ _) => false
  | .violation _ => true
  | _ => false

/-- The computation fails with such faults only. -/
def Objects {α : Type} (x : Except Fault α) : Prop := ∀ f, x = .error f → f.isObjection = true

namespace Objects

variable {α β : Type} {x y : Except Fault α} {f : Fault}

theorem ok (a : α) : Objects (Except.ok a : Except Fault α) := fun _ h => nomatch h

theorem error (h : f.isObjection = true) : Objects (Except.error f : Except Fault α) := by
  rintro _ ⟨⟩
  exact h

theorem map (h : Objects x) (f : α → β) : Objects (x.map f) := fun e he =>
  h e (map_eq_error.1 he)

theorem ite {c : Prop} [Decidable c] (hx : Objects x) (hy : Objects y) :
    Objects (if c then x else y) := by
  split
  · exact hx
  · exact hy

theorem violates (h : Objects x) : Violates x := by
  intro f hf
  have objection := h f hf
  cases f with
  | violation v => exact ⟨v, rfl⟩
  | _ => cases objection

end Objects

/-- A tile is put down unless a rule is against it, where what is there can be shown. -/
theorem Board.place_objects {b : Board} {l : Location} {t : Tile}
    (shown : (b.status l).text?.isSome = true) : Objects (b.place l t) := by
  simp only [Board.place, shown, if_true]
  refine .ite (.error rfl) (.ite (.error rfl) (.ite (.ok _) ?_))
  cases l with
  | offMars s => exact .error rfl
  | onMars h =>
    dsimp only
    unfold cover
    split
    · exact .ite (.error rfl) (.ok _)
    · exact .ok _
    · exact .ok _
    · exact .error rfl
    · exact .error rfl

/-- The player whom a command is about. -/
def Command.player? : Command → Option PlayerId
  | .changeResources p _ _ | .changeProduction p _ _ | .changeCardResource p _ _ _ | .drawCards p _
  | .discardCards p _ | .putCardIntoPlay p _ _ | .raiseTerraformRating p _ | .addEffect p _ _
  | .addNextCardEffect p _ | .consumeNextCardEffects p | .markCardActionUsed p _
  | .purchaseCards p _ | .produce p | .claimMilestone p _ | .fundAward p _ => some p
  | _ => none

/-- It is the player whom the operation names that the command was read off. -/
theorem Operation.player_of_command? {o : Operation} {c : Command} {p : PlayerId}
    (h : o.command? = .ok c) (hp : c.player? = some p) : o.player = some p := by
  have complete := command?_eq_ok.1 h
  unfold complete? at complete
  cases ht : o.type with
  | placeCityTile | placeSpecialTile =>
    simp only [ht, Option.bind_eq_bind, Option.bind_eq_some_iff] at complete
    obtain ⟨_, -, _, -, _, -, ⟨⟩⟩ := complete
    cases hp
  | placeGreenery =>
    simp only [ht, Option.bind_eq_bind, Option.bind_eq_some_iff] at complete
    obtain ⟨_, -, _, -, ⟨⟩⟩ := complete
    cases hp
  | placeOcean =>
    simp only [ht, Option.bind_eq_bind, Option.bind_eq_some_iff] at complete
    obtain ⟨_, -, ⟨⟩⟩ := complete
    cases hp
  | raiseTemperature | raiseOxygen | resetCardActions | advanceGeneration =>
    rw [ht] at complete
    cases complete
    cases hp
  | drawCards | discardCards | raiseTerraformRating | consumeNextCardEffects | purchaseCards
  | produce =>
    simp only [ht, Option.bind_eq_bind, Option.bind_eq_some_iff] at complete
    obtain ⟨p', named, ⟨⟩⟩ := complete
    exact named.trans hp
  | changeResources | changeProduction | markCardActionUsed | claimMilestone | fundAward =>
    simp only [ht, Option.bind_eq_bind, Option.bind_eq_some_iff] at complete
    obtain ⟨p', named, _, -, ⟨⟩⟩ := complete
    exact named.trans hp
  | changeCardResource | putCardIntoPlay =>
    simp only [ht, Option.bind_eq_bind, Option.bind_eq_some_iff] at complete
    obtain ⟨p', named, _, -, _, -, ⟨⟩⟩ := complete
    exact named.trans hp
  | addEffect =>
    simp only [ht, Option.bind_eq_bind, Option.bind_eq_some_iff] at complete
    obtain ⟨p', named, e, -, read⟩ := complete
    split at read
    · cases read
      exact named.trans hp
    · cases read
      exact named.trans hp

namespace Game

variable {g : Game} {p : PlayerId} {q : Player} {c : Command} {o : Operation}

theorem update_objects (hq : g.player? p = some q) (f : Player → Player) :
    Objects (g.update p f) := by
  rw [update, player_eq_ok.2 hq]
  exact .ok _

theorem draw_objects (hq : g.player? p = some q) (n : Int) : Objects (g.draw p n) := by
  simp only [draw, player_eq_ok.2 hq, ok_bind, throw_eq_error, error_bind, pure_eq_ok]
  exact .ite (.error rfl) (.ite (.ok _) (.ite (.ok _) (.error rfl)))

theorem discardAll_objects (cards : List Card) (q : Player) (g : Game) :
    Objects (discardAll p cards q g).toExcept := by
  induction cards generalizing q g with
  | nil => exact .ok _
  | cons c cs ih =>
    rw [discardAll]
    split
    · exact ih _ _
    · exact .error rfl

theorem changeCardResource_objects (hq : g.player? p = some q) (i : Int) (kind : CardResource)
    (n : Int) : Objects (g.changeCardResource p i kind n) := by
  simp only [changeCardResource, player_eq_ok.2 hq, ok_bind, throw_eq_error, error_bind, pure_eq_ok]
  split
  · exact .error rfl
  · exact .ite (.error rfl) (.ite (.error rfl) (.ok _))

theorem purchaseCards_objects (hq : g.player? p = some q) (purse : q.Purse) (cards : List Card) :
    Objects (g.purchaseCards p cards) := by
  obtain ⟨mc, hmc⟩ := Option.isSome_iff_exists.1 purse
  simp only [purchaseCards, player_eq_ok.2 hq, ok_bind, Player.purchase, hmc]
  cases q.canPurchase cards.length with
  | true => exact .ok _
  | false => exact .error rfl

theorem addEffect_objects (hq : g.player? p = some q) (source : Option Int) (e : Effect) :
    Objects (g.addEffect p source e) := by
  simp only [addEffect, player_eq_ok.2 hq, ok_bind, throw_eq_error, pure_eq_ok]
  split
  · exact .error rfl
  · exact .ok _

theorem markCardActionUsed_objects (hq : g.player? p = some q) (i : Int) :
    Objects (g.markCardActionUsed p i) := by
  simp only [markCardActionUsed, player_eq_ok.2 hq, ok_bind, throw_eq_error, error_bind, pure_eq_ok]
  split
  · exact .error rfl
  · exact .ite (.error rfl) (.ok _)

theorem produce_objects (hq : g.player? p = some q) : Objects (g.run (.produce p)) := by
  simp only [run, player_eq_ok.2 hq, ok_bind, throw_eq_error, pure_eq_ok, Player.produce]
  cases Resource.all.find? fun r => q.balanceAfterProduction r < 0 with
  | some r => exact .error rfl
  | none => exact .ok _

/-- **A command** that is about somebody who is there is carried out unless a rule is against it: for
a purchase there has to be an entry for megacredits, and for a tile what is there has to be shown. -/
theorem run_objects (present : ∀ p, c.player? = some p → ∃ q, g.player? p = some q)
    (shown : ∀ l t, c = .placeTile l t → (g.board.status l).text?.isSome = true)
    (purse : ∀ p cards q, c = .purchaseCards p cards → g.player? p = some q → q.Purse) :
    Objects (g.run c) := by
  cases c with
  | placeTile l t => exact .map (Board.place_objects (shown l t rfl)) _
  | raiseTemperature => exact .map (.ite (.error rfl) (.ok _)) _
  | raiseOxygen => exact .map (.ite (.error rfl) (.ok _)) _
  | resetCardActions | advanceGeneration => exact .ok _
  | changeResources p r n =>
    obtain ⟨q, hq⟩ := present p rfl
    simp only [run, changeResources, player_eq_ok.2 hq, ok_bind, throw_eq_error, error_bind]
    exact .ite (.error rfl) (.ok _)
  | changeProduction p r n =>
    obtain ⟨q, hq⟩ := present p rfl
    simp only [run, changeProduction, player_eq_ok.2 hq, ok_bind, throw_eq_error, error_bind]
    exact .ite (.error rfl) (.ok _)
  | changeCardResource p i kind n =>
    obtain ⟨q, hq⟩ := present p rfl
    exact changeCardResource_objects hq i kind n
  | drawCards p n =>
    obtain ⟨q, hq⟩ := present p rfl
    exact draw_objects hq n
  | discardCards p cards =>
    obtain ⟨q, hq⟩ := present p rfl
    simp only [run, player_eq_ok.2 hq, ok_bind]
    exact discardAll_objects cards q g
  | putCardIntoPlay p c i =>
    obtain ⟨q, hq⟩ := present p rfl
    simp only [run, putIntoPlay, player_eq_ok.2 hq, ok_bind, throw_eq_error, error_bind]
    exact .ite (.error rfl) (.ite (.error rfl) (.ok _))
  | raiseTerraformRating p n =>
    obtain ⟨q, hq⟩ := present p rfl
    exact update_objects hq _
  | addEffect p source e =>
    obtain ⟨q, hq⟩ := present p rfl
    exact addEffect_objects hq source e
  | addNextCardEffect p e =>
    obtain ⟨q, hq⟩ := present p rfl
    exact update_objects hq _
  | consumeNextCardEffects p =>
    obtain ⟨q, hq⟩ := present p rfl
    exact update_objects hq _
  | markCardActionUsed p i =>
    obtain ⟨q, hq⟩ := present p rfl
    exact markCardActionUsed_objects hq i
  | purchaseCards p cards =>
    obtain ⟨q, hq⟩ := present p rfl
    exact purchaseCards_objects hq (purse p cards q rfl hq) cards
  | produce p =>
    obtain ⟨q, hq⟩ := present p rfl
    exact produce_objects hq
  | claimMilestone p name =>
    obtain ⟨q, hq⟩ := present p rfl
    simp only [run, claimMilestone, player_eq_ok.2 hq, ok_bind, throw_eq_error, error_bind]
    exact .ite (.error rfl) (.ite (.error rfl) (.ite (.error rfl) (.ok _)))
  | fundAward p name =>
    obtain ⟨q, hq⟩ := present p rfl
    simp only [run, fundAward, player_eq_ok.2 hq, ok_bind, throw_eq_error, error_bind]
    exact .ite (.error rfl) (.ite (.error rfl) (.ite (.error rfl) (.ok _)))

/-- An operation that has all its fields fails as its command does. -/
theorem execute_objects (read : o.command? = .ok c) (ran : Objects (g.run c)) :
    Objects (g.execute o).toExcept := by
  rw [execute, read]
  dsimp only
  split
  next => exact .ok _
  next f hf => exact .error (ran f hf)

/-- Where everybody has an entry for megacredits and tiles are labelled, an operation that names
somebody who is there, or nobody, can only fail as a violation. -/
theorem execute_violates (equipped : g.Equipped)
    (present : ∀ p, o.player = some p → ∃ q, g.player? p = some q) :
    Violates (g.execute o).toExcept := by
  cases read : o.command? with
  | error v =>
    rw [execute, read]
    rintro _ ⟨⟩
    exact ⟨v, rfl⟩
  | ok c =>
    have about : ∀ p, c.player? = some p → ∃ q, g.player? p = some q := fun p hp =>
      present p (Operation.player_of_command? read hp)
    exact (execute_objects read (run_objects about (fun l _ _ => equipped.labels.text_status l)
      fun p _ q _ hq => equipped.purses p q hq)).violates

end Game

end Terraforming
