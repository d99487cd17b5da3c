import Terraforming.Proofs.Board.Orders
import Terraforming.Proofs.Game.Log
import Terraforming.Proofs.Game.Sound

/-!
# Tiles in the score

A tile that is put down is worth something to its owner and to the owners of its neighbours, and never
less than nothing.  Nothing else that is done in a game bears on what tiles score, and no tile is ever
taken away; so these points never drop, and what order the tiles came in makes no difference.

* `Scored` — what is kept: the board is orderly, and nobody has lost points;
* `execute_scored`, `applyEach_scored` — by every operation, accepted or refused, and by every run;
* `tiles_scored` — what a tile changes, that points never drop, and that the order is all the same.
-/

namespace Terraforming

/-- Spaces are within bounds if those that are listed are. -/
theorem Board.bounded_of_entries {b : Board}
    (listed : ∀ e ∈ b.spaces.entries, (e.1.hex?.all Hex.inBounds) = true) : b.Bounded := by
  intro h space
  obtain ⟨s, hs⟩ := Option.isSome_iff_exists.1 space
  exact listed (.onMars h, s) (Table.get?_eq_some_iff.1 hs)

namespace Game

variable {g g' : Game} {b : Board}

/-! ## Points never drop -/

/-- The board is orderly, and on it tiles score nobody less than on the board `b`. -/
def Scored (b : Board) (g : Game) : Prop :=
  g.board.Orderly ∧ ∀ q : Player, q.tilePoints b ≤ q.tilePoints g.board

theorem Scored.of_same (scored : g.Scored b) (board : g'.board = g.board) : g'.Scored b := by
  rw [Scored, board]
  exact scored

theorem board_discardAll {p : PlayerId} {q : Player} (hq : g.player? p = some q) (cards : List Card) :
    (discardAll p cards q g).game.board = g.board :=
  discardAll_keeps (I := fun h => h.board = g.board) cards hq (fun _ _ _ _ _ same => same) rfl

/-- A command that is carried out takes no points away. -/
theorem run_scored {c : Command} (scored : g.Scored b) (shows : c.Shows) (h : g.run c = .ok g') :
    g'.Scored b := by
  obtain ⟨orderly, points⟩ := scored
  cases run_iff.1 h with
  | @tile l t b' placed =>
    refine ⟨orderly.place shows placed, fun q => ?_⟩
    have worth := t.worth_nonneg (g.board.neighborStatus l) q.id
    have before := points q
    rw [orderly.tilePoints_place shows placed q]
    omega
  | @discarded p q cards hq => exact Scored.of_same ⟨orderly, points⟩ (board_discardAll hq cards)
  | temperature | oxygen =>
    exact ⟨⟨orderly.exclusive, orderly.onBoard, orderly.oceans, orderly.owned, orderly.bounded⟩, points⟩
  | _ => exact ⟨orderly, points⟩

/-- Nor does an operation, accepted or refused, -/
theorem execute_scored (scored : g.Scored b) (o : Operation) : (g.execute o).game.Scored b := by
  cases h : g.execute o with
  | accepted g' =>
    obtain ⟨c, g₁, read, ran, rfl⟩ := execute_eq_accepted.1 h
    exact (run_scored scored (Operation.command_shows read) ran).of_same rfl
  | refused f left =>
    obtain rfl | ⟨p, q, cards, hq, rfl⟩ := left_of_refused h
    · exact scored
    · exact scored.of_same (board_discardAll hq cards)

/-- nor a run of operations. -/
theorem applyEach_scored (scored : g.Scored b) (os : List Operation) : (g.applyEach os).Scored b := by
  induction os generalizing g with
  | nil => exact scored
  | cons o os ih => exact ih (execute_scored scored o)

/-! ## Tiles -/

/-- **What tiles score.**  Of boards that pass their check, with owners of greeneries and spaces within
bounds: a tile that is put down changes the points of every player by what it is worth to them there;
so no operation takes points away; and tiles that can be put down one after the other can be put down in
any order, to the same board and the same points. -/
theorem tiles_scored :
    (∀ (b b' : Board) (l : Location) (t : Tile), b.conflict? = none → b.Owned → b.Bounded → t.Shows →
      b.place l t = .ok b' →
        ∀ q : Player, q.tilePoints b' = q.tilePoints b + t.worth (b.neighborStatus l) q.id) ∧
    (∀ g : Game, g.board.conflict? = none → g.board.Owned → g.board.Bounded →
      ∀ (os : List Operation) (q : Player),
        q.tilePoints g.board ≤ q.tilePoints (g.applyEach os).board) ∧
    ∀ (b b' : Board) (tiles tiles' : List (Location × Tile)), (∀ e ∈ tiles, e.2.Shows) →
      b.placeAll tiles = .ok b' → tiles.Perm tiles' → b.placeAll tiles' = .ok b' := by
  have orderly : ∀ b : Board, b.conflict? = none → b.Owned → b.Bounded → b.Orderly :=
    fun b passes owned bounded => (Board.conflict?_eq_none_iff.1 passes).orderly owned bounded
  refine ⟨fun b b' l t passes owned bounded shows placed =>
      (orderly b passes owned bounded).tilePoints_place shows placed,
    fun g passes owned bounded os q => ?_,
    fun b b' tiles tiles' shows placed same => Board.placeAll_perm same shows placed⟩
  have start : g.Scored g.board := ⟨orderly g.board passes owned bounded, fun _ => Int.le_refl _⟩
  exact (applyEach_scored start os).2 q

/-- Four spaces next to each other, with a commercial district on one of them. -/
def crossroads : Game where
  board := Board.Contents.board {
    spaces := [
      { location := .onMars ⟨3, -3⟩, designations := KeySet.ofList [.land] },
      { location := .onMars ⟨4, -4⟩, designations := KeySet.ofList [.land] },
      { location := .onMars ⟨4, -3⟩, designations := KeySet.ofList [.reservedForOcean] },
      { location := .onMars ⟨5, -4⟩, designations := KeySet.ofList [.land] }]
    specialTiles := [(⟨3, -3⟩, (some .commercialDistrict, some 1))] }
  players := Table.ofList [(1, { id := 1 }), (2, { id := 2 })]

/-- In `crossroads` a capital scores for the owner of the district at once, and an ocean then for the
owner of the capital; the other way round it comes to the same. -/
theorem tiles_scored_crossroads :
    crossroads.board.conflict? = none ∧ crossroads.board.Owned ∧ crossroads.board.Bounded ∧
      (∃ b', crossroads.board.place (.onMars ⟨4, -4⟩) (.city .capital 2) = .ok b' ∧
        Player.tilePoints { id := 1 } b' = Player.tilePoints { id := 1 } crossroads.board + 1) ∧
      (∀ q : Player, q.tilePoints crossroads.board ≤
        q.tilePoints (crossroads.applyEach [.placeGreenery 1 (.onMars ⟨5, -4⟩), .raiseOxygen]).board) ∧
      ∃ b', crossroads.board.placeAll
          [(.onMars ⟨4, -4⟩, .city .capital 2), (.onMars ⟨4, -3⟩, .ocean)] = .ok b' ∧
        crossroads.board.placeAll
          [(.onMars ⟨4, -3⟩, .ocean), (.onMars ⟨4, -4⟩, .city .capital 2)] = .ok b' := by
  obtain ⟨tile, game, order⟩ := tiles_scored
  have passes : crossroads.board.conflict? = none := by decide
  have owned : crossroads.board.Owned := fun h o held => nomatch held
  have bounded : crossroads.board.Bounded := Board.bounded_of_entries (by decide)
  have goes : (crossroads.board.place (.onMars ⟨4, -4⟩) (.city .capital 2)).toOption.isSome = true := by
    decide
  obtain ⟨b', hb⟩ := Option.isSome_iff_exists.1 goes
  have all : (crossroads.board.placeAll
      [(.onMars ⟨4, -4⟩, .city .capital 2), (.onMars ⟨4, -3⟩, .ocean)]).toOption.isSome = true := by
    decide
  obtain ⟨b'', hb'⟩ := Option.isSome_iff_exists.1 all
  have placed := toOption_eq_some.1 hb'
  have shows : ∀ e ∈ [(Location.onMars ⟨4, -4⟩, Tile.city .capital 2), (.onMars ⟨4, -3⟩, .ocean)],
      e.2.Shows :=
    List.forall_mem_cons.2 ⟨nofun, List.forall_mem_singleton.2 nofun⟩
  refine ⟨passes, owned, bounded, ⟨b', toOption_eq_some.1 hb, ?_⟩, game crossroads passes owned bounded _,
    b'', placed, order _ _ _ _ shows placed (.swap _ _ _)⟩
  rw [tile _ _ _ _ passes owned bounded (shows _ List.mem_cons_self) (toOption_eq_some.1 hb)]
  decide

end Game

end Terraforming
