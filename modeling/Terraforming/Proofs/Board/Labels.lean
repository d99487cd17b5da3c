import Terraforming.Proofs.Board.Sound
import Terraforming.Proofs.Game.Reading
import Terraforming.Wire.Snapshot

/-!
# Labels of tiles

Whose a tile is and of what kind: a city, a greenery and a special tile have an owner, a city has a
kind and a special tile a name.  The index of a board can leave them open, but then the tile can
neither be shown in a message nor written into a snapshot.

* `Board.unwritable_eq_nil_iff` — a board can be written exactly when every tile is labelled;
* `Board.Labelled.text_status`, `Board.Labelled.render` — then every tile can be shown, and the board;
* `Board.Labelled.place` — and labelled tiles keep it so;
* `Operation.command_labelled` — operations put down no others.
-/

namespace Terraforming

/-- A city has a kind and an owner, a greenery an owner, a special tile a name and an owner. -/
def Tile.Labelled (t : Tile) : Prop :=
  (t.kind = .city → t.cityKind.isSome = true ∧ t.owner.isSome = true) ∧
  (t.kind = .greenery → t.owner.isSome = true) ∧
  (t.kind = .specialTile → t.specialTile.isSome = true ∧ t.owner.isSome = true)

namespace Board

variable {b b' : Board} {l : Location} {t : Tile}

/-- Every tile on the board is labelled. -/
structure Labelled (b : Board) : Prop where
  cities : ∀ l kind owner, b.cities.get? l = some (kind, owner) →
    kind.isSome = true ∧ owner.isSome = true
  greeneries : b.Owned
  specialTiles : ∀ h tile owner, b.specialTiles.get? h = some (tile, owner) →
    tile.isSome = true ∧ owner.isSome = true

/-- An empty board. -/
theorem labelled_standard : Board.standard.Labelled := ⟨nofun, nofun, nofun⟩

/-! ## What can be written -/

/-- Nothing is missing in a list of entries if nothing is missing in any of them. -/
theorem getD_find?_eq_nil_iff (entries : List (List Problem)) :
    (entries.find? fun ps => !ps.isEmpty).getD [] = [] ↔ ∀ ps ∈ entries, ps = [] := by
  cases found : entries.find? fun ps => !ps.isEmpty with
  | none =>
    have none : ∀ ps ∈ entries, ps = [] := fun ps hps => by
      simpa using List.find?_eq_none.1 found ps hps
    exact iff_of_true rfl none
  | some ps =>
    have some : ps ≠ [] := by simpa using List.find?_some found
    exact iff_of_false some fun all => some (all ps (List.mem_of_find?_eq_some found))

theorem ownerProblems_eq_nil {owner : Option PlayerId} :
    Wire.ownerProblems owner = [] ↔ owner.isSome = true := by
  cases owner <;> simp [Wire.ownerProblems]

theorem kindProblems_eq_nil {α : Type} {name : String} {kind : Option α} :
    Wire.kindProblems name kind = [] ↔ kind.isSome = true := by
  cases kind <;> simp [Wire.kindProblems]

/-- Nothing keeps a board from being written exactly when its tiles are labelled. -/
theorem unwritable_eq_nil_iff : Wire.unwritable b = [] ↔ b.Labelled := by
  unfold Wire.unwritable
  simp only [getD_find?_eq_nil_iff, List.forall_mem_append, List.forall_mem_map,
    List.append_eq_nil_iff, ownerProblems_eq_nil, kindProblems_eq_nil]
  constructor
  · rintro ⟨⟨cities, greeneries⟩, specialTiles⟩
    exact ⟨fun l kind owner h => cities _ (Table.get?_eq_some_iff.1 h),
      fun l owner h => greeneries _ (Table.get?_eq_some_iff.1 h),
      fun l tile owner h => specialTiles _ (Table.get?_eq_some_iff.1 h)⟩
  · rintro ⟨cities, greeneries, specialTiles⟩
    exact ⟨⟨fun e he => cities e.1 e.2.1 e.2.2 (Table.get?_eq_some_iff.2 he),
      fun e he => greeneries e.1 e.2 (Table.get?_eq_some_iff.2 he)⟩,
      fun e he => specialTiles e.1 e.2.1 e.2.2 (Table.get?_eq_some_iff.2 he)⟩

/-! ## What can be shown -/

/-- What a location holds can be shown. -/
theorem Labelled.text_status (labelled : b.Labelled) (l : Location) :
    (b.status l).text?.isSome = true := by
  unfold status
  cases hc : b.cities.get? l with
  | some city =>
    simpa [Tile.text?] using (labelled.cities l city.1 city.2 hc).1
  | none =>
    cases l with
    | offMars s => rfl
    | onMars h =>
      dsimp only
      split
      · rfl
      · split
        · rfl
        · split
          next hs => simpa [Tile.text?] using (labelled.specialTiles h _ _ hs).1
          next => rfl

/-- A board with labelled tiles can be shown. -/
theorem Labelled.render (labelled : b.Labelled) : ∃ text, b.render = .ok text := by
  have shown : (b.locations.any fun l => (b.status l).text?.isNone) = false := by
    rw [List.any_eq_false]
    intro l _
    rw [Option.isNone_iff_eq_none]
    exact Option.isSome_iff_ne_none.1 (labelled.text_status l)
  exact ⟨_, by rw [Board.render, shown]; rfl⟩

/-! ## Placing -/

/-- A labelled tile leaves labelled tiles on the board. -/
theorem Labelled.place (labelled : b.Labelled) (tile : t.Labelled) (hp : b.place l t = .ok b') :
    b'.Labelled := by
  obtain ⟨-, -, ⟨city, rfl⟩ | ⟨h, rfl, -, hc⟩⟩ := place_eq_ok.1 hp
  · have cities : ∀ l' e, (b.cities.insert l (t.cityKind, t.owner)).get? l' = some e →
        e.1.isSome = true ∧ e.2.isSome = true :=
      Table.forall_insert (fun l e => labelled.cities l e.1 e.2) (tile.1 (of_decide_eq_true city))
    exact ⟨fun l' kind owner => cities l' (kind, owner), labelled.greeneries,
      labelled.specialTiles⟩
  · obtain ⟨-, -, rfl⟩ | ⟨greenery, rfl⟩ | ⟨special, rfl⟩ := cover_eq_ok.1 hc
    · exact ⟨labelled.cities, labelled.greeneries, labelled.specialTiles⟩
    · exact ⟨labelled.cities, Table.forall_insert labelled.greeneries (tile.2.1 greenery),
        labelled.specialTiles⟩
    · have tiles : ∀ h' e, (b.specialTiles.insert h (t.specialTile, t.owner)).get? h' = some e →
          e.1.isSome = true ∧ e.2.isSome = true :=
        Table.forall_insert (fun h e => labelled.specialTiles h e.1 e.2) (tile.2.2 special)
      exact ⟨labelled.cities, labelled.greeneries, fun h' name owner => tiles h' (name, owner)⟩

end Board

/-! ## Operations -/

/-- A tile that a command puts down is labelled. -/
def Command.Labelled : Command → Prop
  | .placeTile _ t => t.Labelled
  | _ => True

/-- A command that is read off an operation puts down labelled tiles only. -/
theorem Operation.command_labelled {o : Operation} {c : Command} (h : o.command? = .ok c) :
    c.Labelled := by
  cases c with
  | placeTile l t =>
    have type := type_of_command? h
    have complete := command?_eq_ok.1 h
    simp only [Command.types, List.mem_cons, List.not_mem_nil, or_false] at type
    unfold complete? at complete
    rcases type with ht | ht | ht | ht
    · simp only [ht, Option.bind_eq_bind, Option.bind_eq_some_iff] at complete
      obtain ⟨_, -, kind, -, p, -, ⟨⟩⟩ := complete
      simp [Command.Labelled, Tile.Labelled, Tile.city]
    · simp only [ht, Option.bind_eq_bind, Option.bind_eq_some_iff] at complete
      obtain ⟨_, -, p, -, ⟨⟩⟩ := complete
      simp [Command.Labelled, Tile.Labelled, Tile.greenery]
    · simp only [ht, Option.bind_eq_bind, Option.bind_eq_some_iff] at complete
      obtain ⟨_, -, name, -, p, -, ⟨⟩⟩ := complete
      simp [Command.Labelled, Tile.Labelled, Tile.special]
    · simp only [ht, Option.bind_eq_bind, Option.bind_eq_some_iff] at complete
      obtain ⟨_, -, ⟨⟩⟩ := complete
      simp [Command.Labelled, Tile.Labelled, Tile.ocean]
  | _ => trivial

end Terraforming
