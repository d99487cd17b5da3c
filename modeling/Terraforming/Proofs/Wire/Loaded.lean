import Terraforming.Proofs.Board.Exclusive
import Terraforming.Proofs.Wire.Snapshot

/-!
# What is loaded

A text that is accepted as a snapshot has been through three checks.  Its entries were read, and the
entry of a tile cannot leave out the kind or the owner.  Maps were made of lists, under the keys that
the entries name.  And the board passed the check of its constructor.

* `Wire.readBoard_labels` — what was read names all kinds and owners;
* `Game.load_filed` — hence a game that was loaded is filed, and its tiles are labelled.
-/

namespace Terraforming

/-! ## What was read -/

namespace Checked

variable {α β : Type}

theorem map_eq_ok {f : α → β} {c : Checked α} {b : β} :
    f <$> c = ok b ↔ ∃ a, c = ok a ∧ f a = b := by
  cases c with
  | ok a => simp
  | bad ps => exact iff_of_false nofun fun ⟨_, read, _⟩ => nomatch read

theorem seq_eq_ok {f : Checked (α → β)} {c : Checked α} {b : β} :
    f <*> c = ok b ↔ ∃ g a, f = ok g ∧ c = ok a ∧ g a = b := by
  cases f with
  | ok g =>
    cases c with
    | ok a => simp
    | bad ps => exact iff_of_false nofun fun ⟨_, _, _, read, _⟩ => nomatch read
  | bad ps =>
    have unread : (bad ps : Checked (α → β)) <*> c ≠ ok b := by
      cases c with
      | ok a => nofun
      | bad qs => nofun
    exact iff_of_false unread fun ⟨_, _, read, _⟩ => nomatch read

theorem under_eq_ok {c : Checked α} {name : String} {a : α} : c.under name = ok a ↔ c = ok a := by
  cases c with
  | ok b => rfl
  | bad ps => exact iff_of_false nofun nofun

end Checked

namespace Reader

variable {α : Type} {r : Reader α} {j : Json} {name : String} {a d : α} {ms : Members}
  {issue : Issue}

theorem record_eq_ok {read : Members → Checked α} :
    record issue read j = .ok a ↔ ∃ ms, j = .object ms ∧ read ms = .ok a := by
  cases j with
  | object ms => simp
  | _ => exact iff_of_false nofun fun ⟨_, object, _⟩ => nomatch object

/-- A field that was read was there. -/
theorem exists_of_field (h : field ms name r = .ok a) : ∃ j, r j = .ok a := by
  unfold field at h
  split at h
  next j _ => exact ⟨j, Checked.under_eq_ok.1 h⟩
  next => cases h

/-- A field that may be left out was read, or has the value that stands for it. -/
theorem eq_or_exists_of_fieldOr (h : fieldOr ms name d r = .ok a) : a = d ∨ ∃ j, r j = .ok a := by
  unfold fieldOr at h
  split at h
  next j _ => exact .inr ⟨j, Checked.under_eq_ok.1 h⟩
  next =>
    cases h
    exact .inl rfl

theorem exists_of_mem_elements {xs : List Json} {start : Nat} {as : List α}
    (h : Checked.all (elements r start xs) = .ok as) : ∀ a ∈ as, ∃ j, r j = .ok a := by
  induction xs generalizing start as with
  | nil =>
    cases h
    exact List.forall_mem_nil _
  | cons x xs ih =>
    rw [elements, Checked.all] at h
    obtain ⟨_, others, first, rest, rfl⟩ := Checked.seq_eq_ok.1 h
    obtain ⟨a, read, rfl⟩ := Checked.map_eq_ok.1 first
    exact List.forall_mem_cons.2 ⟨⟨x, Checked.under_eq_ok.1 read⟩, ih rest⟩

/-- Everything in a list that was read was read. -/
theorem exists_of_mem_list {as : List α} (h : list r j = .ok as) : ∀ a ∈ as, ∃ j, r j = .ok a := by
  cases j with
  | array xs => exact exists_of_mem_elements h
  | _ => cases h

/-- So was everything in a list that may be left out. -/
theorem exists_of_mem_fieldOr {as : List α} (h : fieldOr ms name [] (list r) = .ok as) :
    ∀ a ∈ as, ∃ j, r j = .ok a := by
  obtain rfl | ⟨j, read⟩ := eq_or_exists_of_fieldOr h
  · exact List.forall_mem_nil _
  · exact exists_of_mem_list read

end Reader

namespace Wire

open Reader

variable {j : Json} {limits : Json.Limits}

/-! ## Boards -/

theorem readCityEntry_labels {e : Location × (Option CityKind × Option PlayerId)}
    (h : readCityEntry j = .ok e) : e.2.1.isSome = true ∧ e.2.2.isSome = true := by
  obtain ⟨ms, rfl, fields⟩ := record_eq_ok.1 h
  simp only [Checked.seq_eq_ok, Checked.map_eq_ok] at fields
  obtain ⟨_, owner, ⟨_, kind, ⟨l, -, rfl⟩, -, rfl⟩, -, rfl⟩ := fields
  exact ⟨rfl, rfl⟩

theorem readGreeneryEntry_labels {e : Hex × Option PlayerId} (h : readGreeneryEntry j = .ok e) :
    e.2.isSome = true := by
  obtain ⟨ms, rfl, fields⟩ := record_eq_ok.1 h
  simp only [Checked.seq_eq_ok, Checked.map_eq_ok] at fields
  obtain ⟨_, owner, ⟨hex, -, rfl⟩, -, rfl⟩ := fields
  rfl

theorem readSpecialTileEntry_labels {e : Hex × (Option SpecialTile × Option PlayerId)}
    (h : readSpecialTileEntry j = .ok e) : e.2.1.isSome = true ∧ e.2.2.isSome = true := by
  obtain ⟨ms, rfl, fields⟩ := record_eq_ok.1 h
  simp only [Checked.seq_eq_ok, Checked.map_eq_ok] at fields
  obtain ⟨_, owner, ⟨_, tile, ⟨hex, -, rfl⟩, -, rfl⟩, -, rfl⟩ := fields
  exact ⟨rfl, rfl⟩

/-- The tiles of a board that was read are labelled. -/
theorem readBoard_labels {c : Board.Contents} (h : readBoard limits j = .ok c) : c.board.Labelled := by
  obtain ⟨ms, rfl, fields⟩ := record_eq_ok.1 h
  simp only [Checked.seq_eq_ok, Checked.map_eq_ok] at fields
  obtain ⟨_, temperature, ⟨_, oxygen, ⟨_, specialTiles, ⟨_, greeneries, ⟨_, oceans, ⟨_, cities,
    ⟨spaces, -, rfl⟩, readCities, rfl⟩, -, rfl⟩, readGreeneries, rfl⟩, readSpecialTiles, rfl⟩, -,
    rfl⟩, -, rfl⟩ := fields
  refine ⟨fun l kind owner => ?_, ?_, fun h tile owner => ?_⟩
  · refine Table.forall_ofList (P := fun _ e => e.1.isSome = true ∧ e.2.isSome = true) ?_ l
      (kind, owner)
    intro e he
    obtain ⟨j, read⟩ := exists_of_mem_fieldOr readCities e he
    exact readCityEntry_labels read
  · refine Table.forall_ofList ?_
    intro e he
    obtain ⟨j, read⟩ := exists_of_mem_fieldOr readGreeneries e he
    exact readGreeneryEntry_labels read
  · refine Table.forall_ofList (P := fun _ e => e.1.isSome = true ∧ e.2.isSome = true) ?_ h
      (tile, owner)
    intro e he
    obtain ⟨j, read⟩ := exists_of_mem_fieldOr readSpecialTiles e he
    exact readSpecialTileEntry_labels read

/-! ## Snapshots -/

/-- The board of a snapshot that was read was read. -/
theorem exists_readBoard {s : Snapshot} (h : readSnapshot limits j = .ok s) :
    ∃ j, readBoard limits j = .ok s.board := by
  obtain ⟨ms, rfl, fields⟩ := record_eq_ok.1 h
  simp only [Checked.seq_eq_ok, Checked.map_eq_ok] at fields
  obtain ⟨_, log, ⟨_, funded, ⟨_, claimed, ⟨_, generation, ⟨_, reshuffles, ⟨_, seed, ⟨_, discard,
    ⟨_, deck, ⟨_, players, ⟨_, board, ⟨version, -, rfl⟩, read, rfl⟩, -, rfl⟩, -, rfl⟩, -, rfl⟩, -,
    rfl⟩, -, rfl⟩, -, rfl⟩, -, rfl⟩, -, rfl⟩, -, rfl⟩ := fields
  exact exists_of_field read

/-- Values that are listed under their keys are found there. -/
theorem keyed_ofList {κ ν : Type} [Ord κ] [Std.TransOrd κ] [Std.LawfulEqOrd κ] [DecidableEq κ]
    (key : ν → κ) (vs : List ν) :
    ∀ e ∈ (Table.ofList (vs.map fun v => (key v, v))).entries, key e.2 = e.1 := by
  intro e he
  refine Table.forall_ofList (P := fun k v => key v = k) ?_ e.1 e.2 (Table.get?_eq_some_iff.2 he)
  intro e he
  obtain ⟨v, -, rfl⟩ := List.mem_map.1 he
  rfl

/-- The game of a snapshot is filed, and has its board. -/
theorem Snapshot.game_eq_ok {s : Snapshot} {g : Game} (h : s.game = .ok g) :
    g.Filed ∧ s.board.board = g.board := by
  unfold Snapshot.game at h
  split at h
  next => cases h
  next =>
    split at h
    next => cases h
    next board checked =>
      cases h
      obtain ⟨consistent, rfl⟩ := Board.Contents.toBoard_eq_ok.1 checked
      exact ⟨⟨keyed_ofList Player.id s.players, keyed_ofList Space.location s.board.spaces,
        Board.conflict?_eq_none_iff.2 consistent⟩, rfl⟩

/-- A snapshot of the known version is that of a game, unless its board is not consistent. -/
theorem Snapshot.game_of_version {s : Snapshot} (known : s.version = snapshotVersion) :
    (¬s.board.board.Consistent ∧ ∃ v, s.game = .error (.violation v)) ∨
      (s.board.board.Consistent ∧ ∃ g, s.game = .ok g) := by
  unfold Snapshot.game
  rw [if_neg (not_not.2 known)]
  cases checked : s.board.toBoard with
  | error v =>
    refine .inl ⟨fun consistent => ?_, v, rfl⟩
    rw [Board.Contents.toBoard_eq_ok.2 ⟨consistent, rfl⟩] at checked
    cases checked
  | ok board =>
    obtain ⟨consistent, rfl⟩ := Board.Contents.toBoard_eq_ok.1 checked
    exact .inr ⟨consistent, _, rfl⟩

end Wire

/-! ## Games -/

/-- **A game that was loaded** is filed, and its tiles are labelled. -/
theorem Game.load_filed {s : String} {limits : Json.Limits} {g : Game} (h : load s limits = .ok g) :
    g.Filed ∧ g.board.Labelled := by
  unfold load at h
  split at h
  next j hj =>
    unfold ofJson at h
    split at h
    next => cases h
    next snapshot read =>
      split at h
      next g' made =>
        cases h
        obtain ⟨filed, board⟩ := Wire.Snapshot.game_eq_ok made
        obtain ⟨j, read⟩ := Wire.exists_readBoard read
        exact ⟨filed, board ▸ Wire.readBoard_labels read⟩
      next => cases h
  next => cases h

end Terraforming
