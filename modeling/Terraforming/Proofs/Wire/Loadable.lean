import Terraforming.Proofs.Game.Marks
import Terraforming.Proofs.Turn.Replay
import Terraforming.Proofs.Wire.Loaded

/-!
# Loadable games

A game that was loaded is played on, and saved and loaded again.  What the constructor of a board asks
for is kept by every operation, with one gap: the temperature goes up by two degrees as long as it is
below its maximum, and the constructor accepts an odd temperature, from which the last step goes one
degree too far.  Nothing else goes wrong, so a game can be loaded again exactly when its temperature
is within range.

* `Board.Laid` — what is kept on the board, and `Board.Laid.conflict?` — what the check finds then;
* `Game.Storable.execute`, `Game.temperature_execute` — one operation;
* `Game.load_dump_moves` — whole runs from a game that was loaded.
-/

namespace Terraforming

/-! ## Boards -/

namespace Board

variable {b b' : Board} {l : Location} {t : Tile}

/-- What the constructor asks for, but that the temperature may be one degree too high. -/
structure Laid (b : Board) : Prop where
  exclusive : b.occupied.Nodup
  onBoard : ∀ l ∈ b.occupied, b.spaces.contains l = true
  oceans : b.oceanCount ≤ maxOceans
  oxygen : 0 ≤ b.oxygen ∧ b.oxygen ≤ maxOxygen
  temperature : minTemperature ≤ b.temperature ∧ b.temperature ≤ maxTemperature + 1

theorem Consistent.laid (consistent : b.Consistent) : b.Laid := by
  obtain ⟨exclusive, onBoard, oceans, oxygen, low, high⟩ := consistent
  exact ⟨exclusive, onBoard, oceans, oxygen, low, by omega⟩

namespace Laid

/-- The check of a board that is laid finds nothing, or a temperature that is too high. -/
theorem conflict? (laid : b.Laid) :
    b.conflict? =
      if b.temperature ≤ maxTemperature then none else some (.temperatureOutOfRange b.temperature) := by
  obtain ⟨exclusive, onBoard, oceans, oxygen, low, -⟩ := laid
  have placed : misplaced? b.spaces [] b.occupied = none :=
    misplaced?_eq_none_iff.2 ⟨exclusive, fun _ _ => List.not_mem_nil, onBoard⟩
  have few : ¬maxOceans < b.oceans.size := Nat.not_lt.2 oceans
  rw [Board.conflict?, placed, outOfRange?, if_neg few, if_neg (not_not_intro oxygen)]
  by_cases high : b.temperature ≤ maxTemperature
  · rw [if_pos high, if_neg (not_not_intro ⟨low, high⟩)]
    rfl
  · rw [if_neg high, if_pos fun within => high within.2]
    rfl

theorem place (laid : b.Laid) (owned : b.Owned) (hp : b.place l t = .ok b') : b'.Laid := by
  obtain ⟨-, oxygen, temperature⟩ := place_frame hp
  exact ⟨nodup_occupied_place laid.exclusive owned hp, onBoard_place laid.onBoard owned hp,
    oceanCount_place laid.oceans hp, oxygen ▸ laid.oxygen, temperature ▸ laid.temperature⟩

/-- From below the maximum a step leads one degree past it at most. -/
theorem raiseTemperature (laid : b.Laid) (below : b.temperatureMaxed = false) :
    { b with temperature := b.temperature + temperatureStep }.Laid := by
  have below : b.temperature < maxTemperature := by simpa [temperatureMaxed] using below
  obtain ⟨exclusive, onBoard, oceans, oxygen, low, -⟩ := laid
  simp only [minTemperature, maxTemperature] at low below
  refine ⟨exclusive, onBoard, oceans, oxygen, ?_, ?_⟩
  · simp only [minTemperature, temperatureStep]
    omega
  · simp only [maxTemperature, temperatureStep]
    omega

theorem raiseOxygen (laid : b.Laid) (below : b.oxygenMaxed = false) :
    { b with oxygen := b.oxygen + 1 }.Laid := by
  have below : b.oxygen < maxOxygen := by simpa [oxygenMaxed] using below
  obtain ⟨exclusive, onBoard, oceans, ⟨low, -⟩, temperature⟩ := laid
  refine ⟨exclusive, onBoard, oceans, ⟨?_, ?_⟩, temperature⟩
  · show 0 ≤ b.oxygen + 1
    omega
  · show b.oxygen + 1 ≤ maxOxygen
    omega

end Laid

end Board

namespace Game

variable {g g' : Game} {o : Operation} {os : List Operation} {limits : Json.Limits}

/-! ## Operations -/

/-- The game can be written, and what was written describes it. -/
structure Storable (g : Game) : Prop where
  keyed : g.Keyed
  labelled : g.board.Labelled
  laid : g.board.Laid

theorem Keyed.unmarked (keyed : g.Keyed) (unmarked : g.Unmarked g') : g'.Keyed := by
  refine ⟨?_, ?_⟩
  · intro e he
    have ids := unmarked.ids e.1
    rw [player?, Table.get?_eq_some_iff.2 he] at ids
    obtain ⟨q, hq, same⟩ := Option.map_eq_some_iff.1 ids.symm
    exact same.symm.trans (keyed.players (e.1, q) (Table.get?_eq_some_iff.1 hq))
  · rw [unmarked.board]
    exact keyed.spaces

/-- An operation that is accepted leaves a game that can be stored. -/
theorem Storable.execute (storable : g.Storable) (h : g.execute o = .accepted g') :
    g'.Storable := by
  obtain ⟨c, g₁, read, marks, rfl⟩ := execute_marks h
  obtain ⟨keyed, labelled, laid⟩ := storable
  cases marks with
  | @tile l t b placed =>
    have tile : t.Labelled := Operation.command_labelled read
    have spaces : ∀ e ∈ b.spaces.entries, e.2.location = e.1 := by
      rw [(Board.place_frame placed).1]
      exact keyed.spaces
    exact ⟨⟨keyed.players, spaces⟩, labelled.place tile placed,
      laid.place labelled.greeneries placed⟩
  | temperature below =>
    obtain ⟨cities, greeneries, specialTiles⟩ := labelled
    exact ⟨⟨keyed.players, keyed.spaces⟩, ⟨cities, greeneries, specialTiles⟩,
      laid.raiseTemperature below⟩
  | oxygen below =>
    obtain ⟨cities, greeneries, specialTiles⟩ := labelled
    exact ⟨⟨keyed.players, keyed.spaces⟩, ⟨cities, greeneries, specialTiles⟩,
      laid.raiseOxygen below⟩
  | milestone | award => exact ⟨⟨keyed.players, keyed.spaces⟩, labelled, laid⟩
  | @nothing c g₁ _ unmarked =>
    obtain ⟨players, spaces⟩ := keyed.unmarked unmarked
    refine ⟨⟨players, spaces⟩, ?_, ?_⟩
    · show g₁.board.Labelled
      rw [unmarked.board]
      exact labelled
    · show g₁.board.Laid
      rw [unmarked.board]
      exact laid

/-- How often operations raise the temperature. -/
def raises (os : List Operation) : Nat := os.countP fun o => o.type = .raiseTemperature

theorem raises_cons (o : Operation) (os : List Operation) :
    raises (o :: os) = raises [o] + raises os := by
  rw [raises, ← List.singleton_append, List.countP_append]
  rfl

/-- An operation moves the temperature by a step when it is for that, and not at all otherwise. -/
theorem temperature_execute (h : g.execute o = .accepted g') :
    g'.board.temperature = g.board.temperature + Board.temperatureStep * raises [o] := by
  obtain ⟨c, g₁, read, marks, rfl⟩ := execute_marks h
  have type := Operation.type_of_command? read
  have still : o.type ≠ .raiseTemperature →
      g.board.temperature = g.board.temperature + Board.temperatureStep * raises [o] := by
    intro other
    rw [raises, List.countP_singleton, decide_eq_false other]
    exact (Int.add_zero _).symm
  cases marks with
  | temperature below =>
    rw [raises, List.countP_singleton, decide_eq_true (List.mem_singleton.1 type)]
    rfl
  | @tile l t b placed =>
    show b.temperature = _
    rw [(Board.place_frame placed).2.2]
    refine still ?_
    cases Operation.lays_of_command? read with
    | ocean ht | city ht | greenery ht | special ht =>
      rw [ht]
      nofun
  | oxygen | milestone | award =>
    refine still ?_
    rw [List.mem_singleton.1 type]
    nofun
  | @nothing c g₁ hidden unmarked =>
    show g₁.board.temperature = _
    rw [unmarked.board]
    refine still fun raising => ?_
    rw [Operation.isPublic_of_command? read, raising] at hidden
    cases hidden

/-! ## Runs -/

theorem Storable.executeAll (storable : g.Storable) (h : g.executeAll os = .accepted g') :
    g'.Storable ∧
      g'.board.temperature = g.board.temperature + Board.temperatureStep * raises os := by
  induction os generalizing g with
  | nil =>
    cases h
    exact ⟨storable, (Int.add_zero _).symm⟩
  | cons o os ih =>
    obtain ⟨g₁, first, rest⟩ := executeAll_cons_eq_accepted.1 h
    obtain ⟨kept, warmer⟩ := ih (storable.execute first) rest
    refine ⟨kept, ?_⟩
    rw [warmer, temperature_execute first, raises_cons o os, Int.natCast_add, Int.mul_add,
      Int.add_assoc]

/-- A run of moves is the operations that it logs. -/
theorem exists_executeAll (run : Relation.ReflTransGen Moves g g') :
    ∃ os, g.executeAll os = .accepted g' := by
  induction run with
  | refl => exact ⟨[], rfl⟩
  | tail _ step ih =>
    obtain ⟨xs, hxs⟩ := ih
    obtain ⟨ys, hys⟩ := step.replays
    exact ⟨xs ++ ys, executeAll_trans hxs hys⟩

/-- A game that can be stored is loaded from what it was written as, if its temperature is within
range, unless the text is refused. -/
theorem Storable.load_write (storable : g.Storable) (reach : limits.depth ≤ limits.levels) :
    load (Wire.writeGame g).text limits =
      if (Wire.writeGame g).within limits then
        if g.board.temperature ≤ Board.maxTemperature then .ok g
        else .error (.fault (.violation (.temperatureOutOfRange g.board.temperature)))
      else .error (.malformed [⟨[], .invalidJson⟩]) := by
  rw [load_write_checked reach storable.keyed storable.labelled, storable.laid.conflict?]
  by_cases within : g.board.temperature ≤ Board.maxTemperature
  · rw [if_pos within, if_pos within]
    rfl
  · rw [if_neg within, if_neg within]
    rfl

/-- **Loadable games stay loadable**, unless they get too warm.  After any moves from a game that was
loaded no location is occupied twice, every occupied location is a space, and oceans and oxygen are
within range.  The temperature is what the operations in the log have made it; it is within range, or
one degree above because it was odd at the start, and just then the board does not pass its check.
The game can be written, and is loaded again as it was if it passes, unless the text is too much for
the reader. -/
theorem load_dump_moves (reach : limits.depth ≤ limits.levels) {s : String} {g₀ : Game}
    (loaded : load s limits = .ok g₀) (run : Relation.ReflTransGen Moves g₀ g) :
    (g.board.occupied.Nodup ∧ (∀ l ∈ g.board.occupied, g.board.spaces.contains l = true) ∧
      g.board.oceanCount ≤ maxOceans ∧ 0 ≤ g.board.oxygen ∧ g.board.oxygen ≤ Board.maxOxygen) ∧
    (∃ os, g.log = g₀.log ++ os ∧
      g.board.temperature = g₀.board.temperature + Board.temperatureStep * raises os) ∧
    (Board.minTemperature ≤ g.board.temperature ∧ g.board.temperature ≤ Board.maxTemperature ∨
      g.board.temperature = Board.maxTemperature + 1 ∧ g₀.board.temperature % 2 = 1) ∧
    (g.board.conflict? = none ↔ g.board.temperature ≤ Board.maxTemperature) ∧
    ∃ j, g.dump = .ok j ∧ load j.text limits =
      if j.within limits then
        if g.board.temperature ≤ Board.maxTemperature then .ok g
        else .error (.fault (.violation (.temperatureOutOfRange g.board.temperature)))
      else .error (.malformed [⟨[], .invalidJson⟩]) := by
  obtain ⟨filed, labelled⟩ := load_filed loaded
  have laid := (Board.conflict?_eq_none_iff.1 filed.board).laid
  obtain ⟨os, accepted⟩ := exists_executeAll run
  obtain ⟨storable, warmth⟩ := Storable.executeAll ⟨filed.keyed, labelled, laid⟩ accepted
  obtain ⟨exclusive, onBoard, oceans, oxygen, low, high⟩ := storable.laid
  refine ⟨⟨exclusive, onBoard, oceans, oxygen⟩, ⟨os, log_executeAll accepted, warmth⟩, ?_, ?_,
    _, dump_eq_ok.2 ⟨storable.labelled, rfl⟩, storable.load_write reach⟩
  · by_cases within : g.board.temperature ≤ Board.maxTemperature
    · exact .inl ⟨low, within⟩
    · have past : g.board.temperature = Board.maxTemperature + 1 := by omega
      refine .inr ⟨past, ?_⟩
      simp only [Board.temperatureStep, Board.maxTemperature] at warmth past
      omega
  · rw [storable.laid.conflict?]
    by_cases within : g.board.temperature ≤ Board.maxTemperature
    · simp [within]
    · simp [within]

/-- A game with a city is loaded, the temperature is raised, and the game is loaded again. -/
theorem load_dump_moves_founded :
    ∃ s g, load s .files = .ok (founded (some .regular)) ∧
      Relation.ReflTransGen Moves (founded (some .regular)) g ∧
      g.board.temperature = -28 ∧ ∃ j, g.dump = .ok j ∧ load j.text .files = .ok g := by
  have labelled : (founded (some .regular)).board.Labelled :=
    (dump_eq_ok.1 (show (founded (some .regular)).dump = .ok _ from rfl)).1
  have within : (Wire.writeGame (founded (some .regular))).within .files = true := by
    decide +kernel
  have loaded : load (Wire.writeGame (founded (some .regular))).text .files =
      .ok (founded (some .regular)) := by
    rw [load_write (by decide) (filed_founded (some .regular)) labelled, within, if_pos rfl]
  obtain ⟨g, raised, warmer, within⟩ : ∃ g,
      (founded (some .regular)).execute .raiseTemperature = .accepted g ∧
        g.board.temperature = -28 ∧ (Wire.writeGame g).within .files = true :=
    ⟨_, rfl, rfl, by decide +kernel⟩
  have run : Relation.ReflTransGen Moves (founded (some .regular)) g := .single (.operation raised)
  refine ⟨_, g, loaded, run, warmer, ?_⟩
  obtain ⟨-, -, -, -, j, written, reads⟩ := load_dump_moves (by decide) loaded run
  obtain rfl := (dump_eq_ok.1 written).2
  have cool : g.board.temperature ≤ Board.maxTemperature := by
    rw [warmer]
    decide
  exact ⟨_, written, by rw [reads, within, if_pos rfl, if_pos cool]⟩

/-- A game on a bare board, one degree below the highest temperature. -/
def lukewarm : Game where
  board := ({ spaces := [], temperature := 7 } : Board.Contents).board
  players := ∅

theorem lukewarm_storable : lukewarm.Storable where
  keyed := ⟨List.forall_mem_nil _, List.forall_mem_nil _⟩
  labelled := ⟨nofun, nofun, nofun⟩
  laid := ⟨.nil, List.forall_mem_nil _, by decide, by decide, by decide⟩

/-- `lukewarm` is loaded, an operation is accepted, and the game that it leaves is written but not
loaded again. -/
theorem lukewarm_overheated :
    ∃ s g j, load s .files = .ok lukewarm ∧ lukewarm.execute .raiseTemperature = .accepted g ∧
      g.board.conflict? = some (.temperatureOutOfRange 9) ∧ g.dump = .ok j ∧
      load j.text .files = .error (.fault (.violation (.temperatureOutOfRange 9))) := by
  have within : (Wire.writeGame lukewarm).within .files = true := by
    decide +kernel
  have loaded : load (Wire.writeGame lukewarm).text .files = .ok lukewarm := by
    rw [lukewarm_storable.load_write (by decide), within, if_pos rfl]
    rfl
  obtain ⟨g, raised, warmer, within⟩ : ∃ g, lukewarm.execute .raiseTemperature = .accepted g ∧
      g.board.temperature = 9 ∧ (Wire.writeGame g).within .files = true :=
    ⟨_, rfl, rfl, by decide +kernel⟩
  have storable := lukewarm_storable.execute raised
  refine ⟨_, g, _, loaded, raised, ?_, dump_eq_ok.2 ⟨storable.labelled, rfl⟩, ?_⟩
  · rw [storable.laid.conflict?, warmer]
    rfl
  · rw [storable.load_write (by decide), within, if_pos rfl, warmer]
    rfl

end Game

end Terraforming
