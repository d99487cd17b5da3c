import Terraforming.Proofs.Board.Labels
import Terraforming.Proofs.Wire.Games

/-!
# Snapshots, read back

A snapshot gives back the game that it was taken of: maps are found again under the keys that their
entries name, sets and ledgers in the order of their lists, and the board passes its check a second
time.  Two things stand in the way.  A tile without its kind or owner cannot be written, and a text
in which something is nested too deep, or a number is too long, is not read.

* `Wire.readSnapshot_write` — what is read off the snapshot of a game;
* `Game.load_write_checked`, `Game.load_dump` — the game that it gives.
-/

namespace Terraforming

/-- Players and spaces stand under their own ids and locations, and the board passes its check. -/
structure Game.Filed (g : Game) : Prop where
  players : ∀ e ∈ g.players.entries, e.2.id = e.1
  spaces : ∀ e ∈ g.board.spaces.entries, e.2.location = e.1
  board : g.board.conflict? = none

/-- The first two of these. -/
structure Game.Keyed (g : Game) : Prop where
  players : ∀ e ∈ g.players.entries, e.2.id = e.1
  spaces : ∀ e ∈ g.board.spaces.entries, e.2.location = e.1

theorem Game.Filed.keyed {g : Game} (filed : g.Filed) : g.Keyed := ⟨filed.players, filed.spaces⟩

namespace Wire

open Reader

variable {limits : Json.Limits}

/-! ## Entries of the board -/

theorem readCityEntry_write {e : Location × (Option CityKind × Option PlayerId)}
    (labelled : e.2.1.isSome = true ∧ e.2.2.isSome = true) :
    readCityEntry (writeCityEntry e) = .ok e := by
  obtain ⟨l, kind, owner⟩ := e
  obtain ⟨kind, rfl⟩ := Option.isSome_iff_exists.1 labelled.1
  obtain ⟨owner, rfl⟩ := Option.isSome_iff_exists.1 labelled.2
  simp [readCityEntry, writeCityEntry, Json.optional, readLocation_write]

theorem readGreeneryEntry_write {e : Hex × Option PlayerId} (labelled : e.2.isSome = true) :
    readGreeneryEntry (writeGreeneryEntry e) = .ok e := by
  obtain ⟨h, owner⟩ := e
  obtain ⟨owner, rfl⟩ := Option.isSome_iff_exists.1 labelled
  simp [readGreeneryEntry, writeGreeneryEntry, Json.optional, readHex_write]

theorem readSpecialTileEntry_write {e : Hex × (Option SpecialTile × Option PlayerId)}
    (labelled : e.2.1.isSome = true ∧ e.2.2.isSome = true) :
    readSpecialTileEntry (writeSpecialTileEntry e) = .ok e := by
  obtain ⟨h, tile, owner⟩ := e
  obtain ⟨tile, rfl⟩ := Option.isSome_iff_exists.1 labelled.1
  obtain ⟨owner, rfl⟩ := Option.isSome_iff_exists.1 labelled.2
  simp [readSpecialTileEntry, writeSpecialTileEntry, Json.optional, readHex_write]

/-! ## The board -/

/-- The contents of a board, as they are written. -/
def contents (b : Board) : Board.Contents where
  spaces := b.spaces.values
  cities := b.cities.entries
  oceans := b.oceans.keys
  greeneries := b.greeneries.entries
  specialTiles := b.specialTiles.entries
  oxygen := b.oxygen
  temperature := b.temperature

theorem readBoard_write {b : Board} (labelled : b.Labelled) (h : Shallow limits (writeBoard b)) :
    readBoard limits (writeBoard b) = .ok (contents b) := by
  have spaces : list (readSpace limits) (.array (b.spaces.values.map (writeSpace .full))) =
      .ok b.spaces.values :=
    array_write .listType readSpace_write (h.member (m := ("spaces", _)) (by simp))
  have cities : list readCityEntry (.array (b.cities.entries.map writeCityEntry)) =
      .ok b.cities.entries :=
    array_map _ fun e he => readCityEntry_write
      (labelled.cities e.1 e.2.1 e.2.2 (Table.get?_eq_some_iff.2 he))
  have oceans : list readHex (.array (b.oceans.keys.map writeHexFull)) = .ok b.oceans.keys :=
    array_map _ fun h _ => readHex_write h
  have greeneries : list readGreeneryEntry (.array (b.greeneries.entries.map writeGreeneryEntry)) =
      .ok b.greeneries.entries :=
    array_map _ fun e he => readGreeneryEntry_write
      (labelled.greeneries e.1 e.2 (Table.get?_eq_some_iff.2 he))
  have specialTiles : list readSpecialTileEntry
      (.array (b.specialTiles.entries.map writeSpecialTileEntry)) = .ok b.specialTiles.entries :=
    array_map _ fun e he => readSpecialTileEntry_write
      (labelled.specialTiles e.1 e.2.1 e.2.2 (Table.get?_eq_some_iff.2 he))
  simp [readBoard, writeBoard, contents, spaces, cities, oceans, greeneries, specialTiles]

/-- What is written of a board is checked as the board is. -/
theorem toBoard_contents {b : Board} (keyed : ∀ e ∈ b.spaces.entries, e.2.location = e.1) :
    (contents b).toBoard = b.conflict?.elim (.ok b) .error := by
  have same : (contents b).board = b := by
    simp only [Board.Contents.board, contents, Table.ofList_values keyed, Table.ofList_entries,
      KeySet.ofList_keys]
  have named : (contents b).named = b.occupied := by
    simp only [Board.Contents.named, contents, Board.occupied, KeySet.ofList_keys,
      Ledger.keys_ofList_entries]
  rw [Board.Contents.toBoard, same, named, ← Board.conflict?]
  cases b.conflict? <;> rfl

/-! ## Players -/

theorem readPlayedCard_write (c : PlayedCard) (h : Shallow limits (writePlayedCard c)) :
    readPlayedCard limits (writePlayedCard c) = .ok c := by
  have card := readCard_write c.card
    (h.member (m := ("card", writeCard .full c.card)) (by simp))
  simp [readPlayedCard, writePlayedCard, card]

theorem readActiveEffect_write (e : ActiveEffect) (h : Shallow limits (writeActiveEffect e)) :
    readActiveEffect limits (writeActiveEffect e) = .ok e := by
  have effect := readEffect_write e.effect
    (h.member (m := ("effect", writeEffect .full e.effect)) (by simp))
  simp [readActiveEffect, writeActiveEffect, effect]

theorem readHolding_write (e : Holding × Int) : readHolding (writeHolding e) = .ok e := by
  simp [readHolding, writeHolding]

theorem readPool_write (p : Pool) : readPool (writePool p) = .ok p := by
  have same : Table.ofList p.entries = p := Table.ofList_entries p
  simp [readPool, writePool, readAmounts, same]

theorem readPlayer_write (p : Player) (h : Shallow limits (writePlayer p)) :
    readPlayer limits (writePlayer p) = .ok p := by
  have played : list (readPlayedCard limits) (.array (p.played.map writePlayedCard)) = .ok p.played :=
    array_write .listType readPlayedCard_write (h.member (m := ("played_cards", _)) (by simp))
  have holdings : list readHolding (.array (p.cardResources.entries.map writeHolding)) =
      .ok p.cardResources.entries :=
    array_map _ fun e _ => readHolding_write e
  have tapped : list int (.array (p.tapped.keys.map .int)) = .ok p.tapped.keys :=
    array_map _ fun n _ => int_int n
  have hand : readCards limits (.array (p.hand.map (writeCard .full))) = .ok p.hand :=
    array_write .listType readCard_write (h.member (m := ("hand", _)) (by simp))
  have effects : list (readActiveEffect limits) (.array (p.effects.map writeActiveEffect)) =
      .ok p.effects :=
    array_write .listType readActiveEffect_write (h.member (m := ("effects", _)) (by simp))
  have next : list (readEffect limits) (.array (p.nextCardEffects.map (writeEffect .full))) =
      .ok p.nextCardEffects :=
    array_write .listType readEffect_write (h.member (m := ("next_card_this_generation_effects", _)) (by simp))
  simp [readPlayer, writePlayer, readPool_write, played, holdings, tapped, hand, effects, next,
    Table.ofList_entries, KeySet.ofList_keys]

/-! ## Games -/

theorem readNames_write (l : Ledger String PlayerId) : readNames (writeNames l) = .ok l := by
  have read : dictionary string int (.object (l.entries.map fun e => (id e.1, .int e.2))) =
      .ok l.entries :=
    dictionary_map string_string int_int
  simp only [readNames, writeNames, id_eq] at read ⊢
  rw [read, Checked.map_ok, Ledger.ofList_entries]

/-- What is written of a game. -/
def snapshot (g : Game) : Snapshot where
  version := snapshotVersion
  board := contents g.board
  players := g.players.values
  deck := g.deck
  discard := g.discard
  seed := g.seed
  reshuffles := g.reshuffles
  generation := g.generation
  claimed := g.claimed
  funded := g.funded
  log := g.log

theorem readSnapshot_write {g : Game} (labelled : g.board.Labelled)
    (h : Shallow limits (writeGame g)) :
    readSnapshot limits (writeGame g) = .ok (snapshot g) := by
  have board := readBoard_write labelled (h.member (m := ("board", writeBoard g.board)) (by simp))
  have players : list (readPlayer limits) (.array (g.players.values.map writePlayer)) =
      .ok g.players.values :=
    array_write .listType readPlayer_write (h.member (m := ("players", _)) (by simp))
  have deck : readCards limits (.array (g.deck.map (writeCard .full))) = .ok g.deck :=
    array_write .listType readCard_write (h.member (m := ("draw_deck", _)) (by simp))
  have discard : readCards limits (.array (g.discard.map (writeCard .full))) = .ok g.discard :=
    array_write .listType readCard_write (h.member (m := ("discard_pile", _)) (by simp))
  have log : list (readOperation limits) (.array (g.log.map (writeOperation .full))) = .ok g.log :=
    array_write .listType readOperation_write (h.member (m := ("operation_log", _)) (by simp))
  simp [readSnapshot, writeGame, snapshot, board, players, deck, discard, log, readNames_write]

theorem game_snapshot {g : Game} (keyed : g.Keyed) :
    (snapshot g).game = g.board.conflict?.elim (.ok g) fun v => .error (.violation v) := by
  simp only [Snapshot.game, snapshot, ne_eq, not_true_eq_false, if_false,
    toBoard_contents keyed.spaces, Table.ofList_values keyed.players]
  cases g.board.conflict? <;> rfl

/-! ## Texts -/

theorem plain_writePlayer (p : Player) : (writePlayer p).plain = true := by
  simp [writePlayer, writePool, writePlayedCard, writeActiveEffect, writeHolding, plain_writeCard,
    plain_writeEffect]

theorem plain_writeBoard (b : Board) : (writeBoard b).plain = true := by
  simp [writeBoard, writeCityEntry, writeGreeneryEntry, writeSpecialTileEntry, plain_writeSpace,
    plain_writeHexFull, plain_writeLocationFull]

theorem plain_writeGame (g : Game) : (writeGame g).plain = true := by
  simp [writeGame, writeNames, plain_writeBoard, plain_writePlayer, plain_writeCard,
    plain_writeOperation]

end Wire

namespace Game

variable {g : Game} {limits : Json.Limits}

/-- A game can be written exactly when its tiles are labelled. -/
theorem dump_eq_ok {j : Json} : g.dump = .ok j ↔ g.board.Labelled ∧ j = Wire.writeGame g := by
  rw [← Board.unwritable_eq_nil_iff]
  unfold dump
  split
  next writable => simp [writable, eq_comm]
  next unwritable => exact iff_of_false nofun fun h => unwritable h.1

/-- What a game was written as is the game again, if the board passes its check, unless the text is
refused. -/
theorem load_write_checked (reach : limits.depth ≤ limits.levels) (keyed : g.Keyed)
    (labelled : g.board.Labelled) :
    load (Wire.writeGame g).text limits =
      if (Wire.writeGame g).within limits then
        g.board.conflict?.elim (.ok g) fun v => .error (.fault (.violation v))
      else .error (.malformed [⟨[], .invalidJson⟩]) := by
  rw [load, Json.ofText?_text (Wire.plain_writeGame g)]
  by_cases within : (Wire.writeGame g).within limits = true
  · have shallow := Wire.shallow_of_within reach within
    simp only [within, if_true, ofJson, Wire.readSnapshot_write labelled shallow,
      Wire.game_snapshot keyed]
    cases g.board.conflict? <;> rfl
  · simp only [within, Bool.false_eq_true, if_false]

theorem load_write (reach : limits.depth ≤ limits.levels) (filed : g.Filed)
    (labelled : g.board.Labelled) :
    load (Wire.writeGame g).text limits =
      if (Wire.writeGame g).within limits then .ok g
      else .error (.malformed [⟨[], .invalidJson⟩]) := by
  rw [load_write_checked reach filed.keyed labelled, filed.board]
  rfl

/-- A game can be written exactly when its tiles are labelled.  From the text it is read back as it
was, unless the text is too much for the reader; one that reads impacts down to where a text may be
nested is meant. -/
theorem load_dump (reach : limits.depth ≤ limits.levels) (filed : g.Filed) :
    ((∃ j, g.dump = .ok j) ↔ g.board.Labelled) ∧
      ∀ j, g.dump = .ok j → load j.text limits =
        if j.within limits then .ok g else .error (.malformed [⟨[], .invalidJson⟩]) := by
  constructor
  · constructor
    · rintro ⟨j, written⟩
      exact (dump_eq_ok.1 written).1
    · exact fun labelled => ⟨_, dump_eq_ok.2 ⟨labelled, rfl⟩⟩
  · intro j written
    obtain ⟨labelled, rfl⟩ := dump_eq_ok.1 written
    exact load_write reach filed labelled

/-! ## Games of one player -/

theorem filed_lone {q : Player} (player : g.players = Table.ofList [(q.id, q)])
    (layout : g.board.spaces = Board.standard.spaces) (board : g.board.conflict? = none) :
    g.Filed where
  players := by
    intro e he
    rw [player] at he
    obtain rfl : e = (q.id, q) := List.mem_singleton.1 he
    rfl
  spaces := by
    have keyed : ∀ e ∈ Board.standard.spaces.entries, e.2.location = e.1 := by decide +kernel
    rwa [layout]
  board := board

/-- A game of one player with one city. -/
def founded (kind : Option CityKind) : Game where
  board := { Board.standard with cities := Table.ofList [(.onMars ⟨0, 0⟩, kind, some 1)] }
  players := Table.ofList [(1, { id := 1 })]

theorem filed_founded (kind : Option CityKind) : (founded kind).Filed := by
  have occupied : (founded kind).board.occupied = [.onMars ⟨0, 0⟩] := rfl
  have space : (founded kind).board.spaces.contains (.onMars ⟨0, 0⟩) = true :=
    show Board.standard.spaces.contains (.onMars ⟨0, 0⟩) = true by decide +kernel
  have range : (founded kind).board.outOfRange? = none := rfl
  have sound : (founded kind).board.conflict? = none := by
    simp [Board.conflict?, occupied, Board.misplaced?, space, range]
  exact filed_lone (q := { id := 1 }) rfl rfl sound

/-- The city has a kind, and the game is read back. -/
theorem load_dump_founded :
    Json.Limits.files.depth ≤ Json.Limits.files.levels ∧ (founded (some .regular)).Filed ∧
      ∃ j, (founded (some .regular)).dump = .ok j ∧
        load j.text .files = .ok (founded (some .regular)) := by
  have filed := filed_founded (some .regular)
  refine ⟨by decide, filed, _, rfl, ?_⟩
  have within : (Wire.writeGame (founded (some .regular))).within .files = true := by
    decide +kernel
  rw [(load_dump (by decide) filed).2 _ rfl, within, if_pos rfl]

/-- An impact that offers another one, which offers another one, `n` levels down. -/
def offer : Nat → Impact
  | 0 => .raiseTemperature
  | n + 1 => .oneOf [offer n]

/-- A card that offers so many levels. -/
def offering (n : Nat) : Card where
  name := "Offers"
  kind := .automatic
  tags := []
  cost := .megacredits 0
  impacts := [offer n]
  sound := rfl

/-- A player with such a card in play. -/
def offerer (n : Nat) : Player where
  id := 1
  played := [⟨0, offering n⟩]
  nextInstance := 1

/-- A game of that player alone. -/
def offered (n : Nat) : Game where
  board := .standard
  players := Table.ofList [(1, offerer n)]

theorem filed_offered (n : Nat) : (offered n).Filed := filed_lone (q := offerer n) rfl rfl rfl

/-- A city without a kind keeps a game from being written, and a card that is nested too deep from
being read back. -/
theorem dump_unlabelled_load_deep :
    ((founded none).Filed ∧ (∀ e ∈ (founded none).board.cities.entries, e.2.2.isSome = true) ∧
      ∀ j, (founded none).dump ≠ .ok j) ∧
    ((offered 97).Filed ∧ ∃ j, (offered 97).dump = .ok j ∧
      load j.text .files = .error (.malformed [⟨[], .invalidJson⟩])) := by
  refine ⟨⟨filed_founded none, by decide, nofun⟩, filed_offered 97, _, rfl, ?_⟩
  have deep : (Wire.writeGame (offered 97)).within .files = false := by
    decide +kernel
  rw [load_write (by decide) (filed_offered 97) Board.labelled_standard, deep,
    if_neg Bool.false_ne_true]

end Game

end Terraforming
