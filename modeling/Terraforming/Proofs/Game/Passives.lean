import Terraforming.Proofs.Game.Log
import Terraforming.Proofs.Game.Reading
import Terraforming.Proofs.Game.Sound

/-!
# The passive effects of a game

The effects that are always on are written down once, when the card that they are printed on comes into
play.  A command adds one effect to those of one player if it is the command to add it, and otherwise
it leaves the effects of everybody alone (`Game.run_passives`).  So whatever consists of other
operations is answered by the same effects from its beginning to its end
(`Game.executeAll_passives`).
-/

namespace Terraforming

/-- The operation adds an effect that stays. -/
def Operation.addsPassive (o : Operation) : Bool := o.type = .addEffect && !o.nextCardOnly

theorem Operation.addsPassive_of_command? {o : Operation} {p : PlayerId} {source : Option Int}
    {e : Effect} (read : o.command? = .ok (.addEffect p source e)) : o.addsPassive = true := by
  have type : o.type = .addEffect := List.mem_singleton.1 (type_of_command? read)
  have complete := command?_eq_ok.1 read
  simp only [complete?, type, Option.bind_eq_bind, Option.bind_eq_some_iff] at complete
  obtain ⟨_, -, _, -, last⟩ := complete
  cases next : o.nextCardOnly with
  | false => simp [addsPassive, type, next]
  | true => simp [next] at last

/-- A command on the affairs of a player adds an effect to theirs, or leaves them alone. -/
theorem Player.Becomes.effects {p : PlayerId} {q q' : Player} {c : Command}
    (becomes : q.Becomes p c q') : q'.effects = q.effects ∨
      ∃ i e, c = .addEffect p (some i) e ∧ q'.effects = q.effects ++ [⟨i, e⟩] := by
  cases becomes with
  | effect => exact .inr ⟨_, _, rfl, rfl⟩
  | _ => exact .inl rfl

namespace Game

variable {g g' : Game} {c : Command} {o : Operation} {p : PlayerId} {q q' : Player}

/-- The effects of every player, in the order in which they came into play. -/
def passives (g : Game) : Table PlayerId (List ActiveEffect) := g.players.mapValues (·.effects)

theorem get?_passives (g : Game) (p : PlayerId) :
    g.passives.get? p = (g.player? p).map (·.effects) :=
  Table.get?_mapValues _

theorem passives_withPlayer (g : Game) (p : PlayerId) (q' : Player) :
    (g.withPlayer p q').passives = g.passives.insert p q'.effects :=
  Table.mapValues_insert _

/-- What else a player has does not show. -/
theorem passives_withPlayer_of_same (hq : g.player? p = some q) (same : q'.effects = q.effects) :
    (g.withPlayer p q').passives = g.passives := by
  refine Table.ext_get? fun p' => ?_
  rw [passives_withPlayer, Table.get?_insert]
  split
  next here => rw [here, same, get?_passives, hq, Option.map_some]
  next => rfl

theorem passives_congr (players : g'.players = g.players) : g'.passives = g.passives := by
  rw [passives, players, passives]

theorem passives_deal (hq : g.player? p = some q) (n : Nat) :
    (g.deal p q n).passives = g.passives := by
  have found : { g with deck := g.deck.drop n }.player? p = some q := hq
  have drawn : { q with hand := q.hand ++ g.deck.take n }.effects = q.effects := rfl
  exact passives_withPlayer_of_same found drawn

theorem passives_discardAll (cards : List Card) (hq : g.player? p = some q) :
    (discardAll p cards q g).game.passives = g.passives := by
  refine discardAll_keeps (I := fun h => h.passives = g.passives) cards hq ?_ rfl
  intro h q d hq _ same
  have found : { h with discard := h.discard ++ [d] }.player? p = some q := hq
  have given : { q with hand := q.hand.erase d }.effects = q.effects := rfl
  exact (passives_withPlayer_of_same found given).trans same

theorem passives_resetCardActions (g : Game) : g.resetCardActions.passives = g.passives := by
  refine Table.ext_get? fun p => ?_
  rw [get?_passives, get?_passives, player?, resetCardActions, Table.get?_mapValues, Option.map_map]
  rfl

/-! ## Every command -/

/-- **A command that is carried out** leaves all effects alone, unless it is the one that adds an effect,
which then comes after those that its player has. -/
theorem run_passives (h : g.run c = .ok g') :
    g'.passives = g.passives ∨ ∃ p q i e, c = .addEffect p (some i) e ∧ g.player? p = some q ∧
      g'.passives = g.passives.insert p (q.effects ++ [⟨i, e⟩]) := by
  cases run_iff.1 h with
  | @alone c p q q' hq becomes =>
    obtain same | ⟨i, e, rfl, added⟩ := becomes.effects
    · exact .inl (passives_withPlayer_of_same hq same)
    · exact .inr ⟨p, q, i, e, rfl, hq, added ▸ passives_withPlayer g p q'⟩
  | dealt hq => exact .inl (passives_deal hq _)
  | reshuffled hq => exact .inl (passives_deal (g := g.reshuffle) hq _)
  | discarded hq => exact .inl (passives_discardAll _ hq)
  | untapped => exact .inl (passives_resetCardActions g)
  | _ => exact .inl (passives_congr rfl)

/-! ## Operations that add no effect -/

theorem passives_of_refused {f : Fault} (h : g.execute o = .refused f g') :
    g'.passives = g.passives := by
  obtain rfl | ⟨p, q, cards, hq, rfl⟩ := left_of_refused h
  · rfl
  · exact passives_discardAll cards hq

theorem execute_passives (quiet : o.addsPassive = false) (h : g.execute o = .accepted g') :
    g'.passives = g.passives := by
  obtain ⟨c, g₁, read, carried, rfl⟩ := execute_eq_accepted.1 h
  rcases run_passives carried with same | ⟨p, q, i, e, rfl, -, -⟩
  · exact same
  · rw [Operation.addsPassive_of_command? read] at quiet
    cases quiet

theorem executeAll_passives {os : List Operation} (quiet : ∀ o ∈ os, o.addsPassive = false)
    (h : g.executeAll os = .accepted g') : g'.passives = g.passives :=
  executeAll_keeps (I := fun g' => g'.passives = g.passives) h
    (fun o ho _ _ same first => (execute_passives (quiet o ho) first).trans same) rfl

end Game

end Terraforming
