import Terraforming.Proofs.Game.GenerationEnd
import Terraforming.Proofs.Game.Reading
import Terraforming.Proofs.Game.Sound

/-!
# What operations do to the books

The books of a player are balances, production and terraform rating.  A command that is carried out
writes one entry into the books of one player at most (`Entry`), and only if the entry is allowed: a
balance is not negative then, and a production not below its floor.  A change of the rating alone is
written without being looked at.

* `Game.run_entered` — every command, and that none of them changes the layout;
* `Game.execute_entered`, `Game.executeAll_spaces` — and so every operation that is accepted.
-/

namespace Terraforming

/-! ## Books -/

/-- What a player has, produces and is worth. -/
structure Books where
  resources : Pool
  production : Pool
  rating : Int

def Player.books (q : Player) : Books := ⟨q.resources, q.production, q.rating⟩

/-- What a command that is carried out may make of the books of `p`, who is `q` before. -/
inductive Entry (c : Command) (p : PlayerId) (q : Player) : Books → Prop where
  | none : Entry c p q q.books
  | balance (r : Resource) (n : Int) : 0 ≤ n →
      Entry c p q { q.books with resources := q.resources.insert r n }
  | production (r : Resource) (n : Int) : q.productionFloor (some r) ≤ n →
      Entry c p q { q.books with production := q.production.insert r n }
  | rating (n : Int) : c = .raiseTerraformRating p n →
      Entry c p q { q.books with rating := q.rating + n }
  /-- The production phase. -/
  | produced : q.CanProduce → Entry c p q q.produced.books

theorem Player.Becomes.entry {c : Command} {p : PlayerId} {q q' : Player}
    (becomes : q.Becomes p c q') : Entry c p q q'.books := by
  cases becomes with
  | resources enough => exact .balance _ _ enough
  | production floor => exact .production _ _ floor
  | rating n => exact .rating n rfl
  | purchase _ covered => exact .balance _ _ (Int.sub_nonneg_of_le covered)
  | produced can => exact .produced can
  | _ => exact .none

namespace Game

variable {g g' : Game} {c : Command} {o : Operation} {p : PlayerId} {q q' : Player}

/-- From `g` to `g'` the players are those that were, each with an entry in the books at most, and
the layout stays. -/
structure Entered (g : Game) (c : Command) (g' : Game) : Prop where
  spaces : g'.board.spaces = g.board.spaces
  players : ∀ p q', g'.player? p = some q' → ∃ q, g.player? p = some q ∧ Entry c p q q'.books

namespace Entered

theorem of_players (spaces : g'.board.spaces = g.board.spaces) (players : g'.players = g.players) :
    g.Entered c g' := by
  refine ⟨spaces, fun p q hq => ⟨q, ?_, .none⟩⟩
  rw [player?, players] at hq
  exact hq

/-- Nothing is written where all the books are as they were. -/
theorem of_books (spaces : g'.board.spaces = g.board.spaces)
    (books : ∀ p, (g'.player? p).map Player.books = (g.player? p).map Player.books) :
    g.Entered c g' := by
  refine ⟨spaces, fun p q' hq' => ?_⟩
  have same := books p
  rw [hq'] at same
  obtain ⟨q, hq, eq⟩ := Option.map_eq_some_iff.1 same.symm
  exact ⟨q, hq, eq ▸ .none⟩

theorem withPlayer (hq : g.player? p = some q) (entry : Entry c p q q'.books) :
    g.Entered c (g.withPlayer p q') := by
  refine ⟨rfl, fun p₁ q₁ hq₁ => ?_⟩
  rw [player?_withPlayer] at hq₁
  by_cases same : p₁ = p
  · rw [if_pos same] at hq₁
    cases hq₁
    exact ⟨q, same ▸ hq, same ▸ entry⟩
  · rw [if_neg same] at hq₁
    exact ⟨q₁, hq₁, .none⟩

end Entered

/-- What else a player has does not show in the books. -/
theorem books_withPlayer (hq : g.player? p = some q) (same : q'.books = q.books) (p₁ : PlayerId) :
    ((g.withPlayer p q').player? p₁).map Player.books = (g.player? p₁).map Player.books := by
  rw [player?_withPlayer]
  by_cases here : p₁ = p
  · rw [if_pos here, here, hq]
    exact congrArg some same
  · rw [if_neg here]

theorem entered_deal (hq : g.player? p = some q) (n : Nat) : g.Entered c (g.deal p q n) := by
  have found : { g with deck := g.deck.drop n }.player? p = some q := hq
  exact .of_books rfl (books_withPlayer found rfl)

/-- Cards that are discarded leave the books alone. -/
theorem books_discardAll (cards : List Card) (hq : g.player? p = some q) :
    (discardAll p cards q g).game.board = g.board ∧ ∀ p₁,
      ((discardAll p cards q g).game.player? p₁).map Player.books =
        (g.player? p₁).map Player.books := by
  refine discardAll_keeps (I := fun h => h.board = g.board ∧
    ∀ p₁, (h.player? p₁).map Player.books = (g.player? p₁).map Player.books) cards hq ?_
    ⟨rfl, fun _ => rfl⟩
  rintro h q d hq - ⟨board, books⟩
  have found : { h with discard := h.discard ++ [d] }.player? p = some q := hq
  have same : { q with hand := q.hand.erase d }.books = q.books := rfl
  exact ⟨board, fun p₁ => (books_withPlayer found same p₁).trans (books p₁)⟩

theorem entered_resetCardActions (g : Game) : g.Entered c g.resetCardActions := by
  refine .of_books rfl fun p => ?_
  rw [player?, resetCardActions, Table.get?_mapValues, Option.map_map]
  rfl

/-! ## Every command -/

/-- **A command that is carried out** writes one entry at most, and keeps the layout. -/
theorem run_entered (h : g.run c = .ok g') : g.Entered c g' := by
  cases run_iff.1 h with
  | alone hq becomes => exact .withPlayer hq becomes.entry
  | dealt hq => exact entered_deal hq _
  | reshuffled hq => exact ⟨rfl, (entered_deal (g := g.reshuffle) hq _).players⟩
  | @discarded p q cards hq =>
    obtain ⟨board, books⟩ := books_discardAll cards hq
    exact .of_books (congrArg Board.spaces board) books
  | tile placed => exact .of_players (Board.place_frame placed).1 rfl
  | untapped => exact entered_resetCardActions g
  | _ => exact .of_players rfl rfl

/-- **An operation that is accepted** is a command that writes one entry at most. -/
theorem execute_entered (h : g.execute o = .accepted g') :
    ∃ c, o.command? = .ok c ∧ g.Entered c g' := by
  obtain ⟨c, g₁, read, carried, rfl⟩ := execute_eq_accepted.1 h
  obtain ⟨spaces, players⟩ := run_entered carried
  exact ⟨c, read, spaces, players⟩

/-- The layout is never changed. -/
theorem executeAll_spaces {os : List Operation} (accepted : g.executeAll os = .accepted g') :
    g'.board.spaces = g.board.spaces := by
  refine executeAll_keeps (I := fun h => h.board.spaces = g.board.spaces) accepted ?_ rfl
  intro o _ h h' same ho
  obtain ⟨c, -, entered⟩ := execute_entered ho
  exact entered.spaces.trans same

end Game

end Terraforming
