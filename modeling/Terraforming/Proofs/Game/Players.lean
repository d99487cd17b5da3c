import Terraforming.Proofs.Game.Bystanders
import Terraforming.Proofs.Game.GenerationEnd
import Terraforming.Proofs.Game.Regular

/-!
# What becomes of each player

A command that is carried out is about one player, or about nobody.  Seen from the seat of a single player
there are only a few things that it can do (`Player.Fares`), and whatever is true of a player all along is
read off these, with no look at the rest of the game.

* `Game.run_fares`, `Game.execute_fares` — every command, and so every operation, seen from one seat;
* `Game.executeAll_folds` — what each operation settles for itself, a whole run settles by a fold;
* `Game.keeps_execute` — cards in play stay in play.
-/

namespace Terraforming

/-- What becomes of player `q`, who is `r`, by a command, whomever it is about. -/
inductive Player.Fares (r : PlayerId) (q : Player) : Command → Player → Prop where
  | own {c : Command} {q' : Player} : q.Becomes r c q' → Fares r q c q'
  | drawn (count : Int) (hand : List Card) : Fares r q (.drawCards r count) { q with hand := hand }
  | discarded (cards hand : List Card) :
      Fares r q (.discardCards r cards) { q with hand := hand }
  | untapped : Fares r q .resetCardActions { q with tapped := ∅ }
  /-- A milestone or an award is not among the affairs of a player. -/
  | honored {c : Command} : c.isPublic = true → Fares r q c q
  | bystander {c : Command} : c.player? ≠ some r → c ≠ .resetCardActions → Fares r q c q

/-- Nothing that is in play goes away. -/
theorem Player.Fares.played {r : PlayerId} {q q' : Player} {c : Command} (fares : q.Fares r c q') :
    q.played <+: q'.played := by
  cases fares with
  | own becomes => exact becomes.played
  | _ => exact List.prefix_refl _

namespace Game

variable {g g' : Game} {c : Command} {o : Operation} {os : List Operation} {r : PlayerId}
  {q q' : Player}

/-- The cards of a player who discards go to the pile one by one; nothing else of theirs changes. -/
theorem discardAll_hand (cards : List Card) (hq : g.player? r = some q) :
    ∃ hand, (discardAll r cards q g).game.player? r = some { q with hand := hand } := by
  refine discardAll_keeps (I := fun h => ∃ hand, h.player? r = some { q with hand := hand })
    cards hq ?_ ⟨q.hand, hq⟩
  rintro h q₁ d hq₁ - ⟨hand, same⟩
  obtain rfl : q₁ = { q with hand := hand } := Option.some.inj (hq₁.symm.trans same)
  exact ⟨hand.erase d, player?_withPlayer.trans (if_pos rfl)⟩

/-- **Every command** that is carried out, seen from one seat. -/
theorem run_fares (h : g.run c = .ok g') (hq : g.player? r = some q) :
    ∃ q', g'.player? r = some q' ∧ q.Fares r c q' := by
  by_cases reset : c = .resetCardActions
  · subst reset
    cases h
    refine ⟨{ q with tapped := ∅ }, ?_, .untapped⟩
    rw [player?, resetCardActions, Table.get?_mapValues]
    exact Option.map_eq_some_iff.2 ⟨q, hq, rfl⟩
  by_cases about : c.player? = some r
  · cases run_iff.1 h with
    | @alone c p q₁ q' hq₁ becomes =>
      obtain rfl : p = r := Option.some.inj (becomes.player?.symm.trans about)
      obtain rfl : q₁ = q := Option.some.inj (hq₁.symm.trans hq)
      exact ⟨q', player?_withPlayer.trans (if_pos rfl), .own becomes⟩
    | dealt hq₁ | reshuffled hq₁ =>
      obtain rfl := Option.some.inj about
      obtain rfl := Option.some.inj (hq₁.symm.trans hq)
      exact ⟨_, player?_withPlayer.trans (if_pos rfl), .drawn _ _⟩
    | discarded hq₁ =>
      obtain rfl := Option.some.inj about
      obtain rfl := Option.some.inj (hq₁.symm.trans hq)
      obtain ⟨hand, there⟩ := discardAll_hand _ hq
      exact ⟨_, there, .discarded _ hand⟩
    | untapped => exact absurd rfl reset
    | tile | temperature | oxygen | generation => cases about
    | milestone | award => exact ⟨q, hq, .honored rfl⟩
  · exact ⟨q, (run_bystander about reset h).trans hq, .bystander about reset⟩

/-- So does every operation that is accepted. -/
theorem execute_fares (h : g.execute o = .accepted g') (hq : g.player? r = some q) :
    ∃ c q', o.command? = .ok c ∧ g'.player? r = some q' ∧ q.Fares r c q' := by
  obtain ⟨c, g₁, read, carried, rfl⟩ := execute_eq_accepted.1 h
  obtain ⟨q', hq', fares⟩ := run_fares carried hq
  exact ⟨c, q', read, hq', fares⟩

/-- **A run of operations** settles for a player, one operation after the other, what each of them
settles by itself. -/
theorem executeAll_folds {α : Type} {v : Player → α} {f : α → Operation → α}
    (step : ∀ {o c} {q q' : Player}, o.command? = .ok c → q.Fares r c q' → v q' = f (v q) o)
    (h : g.executeAll os = .accepted g') (hq : g.player? r = some q) :
    ∃ q', g'.player? r = some q' ∧ v q' = os.foldl f (v q) := by
  induction os generalizing g q with
  | nil =>
    cases h
    exact ⟨q, hq, rfl⟩
  | cons o os ih =>
    obtain ⟨g₁, first, rest⟩ := executeAll_cons_eq_accepted.1 h
    obtain ⟨c, q₁, read, hq₁, fares⟩ := execute_fares first hq
    obtain ⟨q', hq', settled⟩ := ih rest hq₁
    refine ⟨q', hq', ?_⟩
    rw [settled, step read fares, List.foldl_cons]

/-- Whoever is there after some operations was there before them. -/
theorem exists_before (h : g.executeAll os = .accepted g') (hq' : g'.player? r = some q') :
    ∃ q, g.player? r = some q :=
  mem_playerIds.1 (playerIds_executeAll h ▸ mem_playerIds.2 ⟨q', hq'⟩)

/-- Players stay, and so do their cards in play. -/
theorem keeps_execute (h : g.execute o = .accepted g') : g.Keeps g' := by
  intro r q hq
  obtain ⟨c, q', -, hq', fares⟩ := execute_fares h hq
  exact ⟨q', hq', fares.played⟩

theorem keeps_executeAll (h : g.executeAll os = .accepted g') : g.Keeps g' :=
  executeAll_keeps (I := g.Keeps) h (fun _ _ _ _ kept ho => kept.trans (keeps_execute ho)) (.refl g)

end Game

end Terraforming
