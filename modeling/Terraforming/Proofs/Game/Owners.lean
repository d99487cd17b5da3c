import Terraforming.Proofs.Board.View
import Terraforming.Proofs.Game.Floors
import Terraforming.Proofs.Game.Marks

/-!
# Owners

Every tile but an ocean has an owner, and so has every milestone and award that is taken.  The owners
ought to be players of the game.  Operations that are accepted keep it so, with one exception: tiles
are put down for whomever the operation names, and nobody asks whether the player is there.

* `Board.ownedAmong_place_iff` — a tile that is put down keeps the owners of a board among some players
  exactly when its own owner is one of them;
* `Game.execute_ownersPresent` — one operation, and what it leaves of the question;
* `Game.ownersPresent_iff` — a whole run keeps owners and players together exactly when none of its
  operations puts a tile down for a stranger, which is all that operations for strangers can do.
-/

namespace Terraforming

/-! ## Tiles -/

namespace Board

variable {b b' : Board} {l : Location} {t : Tile} {ps : List PlayerId}

/-- Every city, greenery and special tile belongs to one of the players. -/
structure OwnedAmong (ps : List PlayerId) (b : Board) : Prop where
  cities : ∀ l e, b.cities.get? l = some e → ∃ p ∈ ps, e.2 = some p
  greeneries : ∀ h owner, b.greeneries.get? h = some owner → ∃ p ∈ ps, owner = some p
  specialTiles : ∀ h e, b.specialTiles.get? h = some e → ∃ p ∈ ps, e.2 = some p

theorem OwnedAmong.owned (h : b.OwnedAmong ps) : b.Owned := by
  intro hex owner found
  obtain ⟨p, -, rfl⟩ := h.greeneries hex owner found
  rfl

/-- A tile goes into an index that did not hold its location, so the tiles that were there stay. -/
theorem ownedAmong_place_iff (owned : b.Owned) (hp : b.place l t = .ok b') :
    b'.OwnedAmong ps ↔ b.OwnedAmong ps ∧ (t.kind ≠ .ocean → ∃ p ∈ ps, t.owner = some p) := by
  obtain ⟨-, empty, ⟨city, rfl⟩ | ⟨h, rfl, -, covered⟩⟩ := place_eq_ok.1 hp
  · have kind : t.kind = .city := of_decide_eq_true city
    have entries := Table.forall_insert_iff (v := (t.cityKind, t.owner))
      (P := fun _ e => ∃ p ∈ ps, e.2 = some p) (city_of_status_isEmpty empty)
    constructor
    · rintro ⟨cities, greeneries, specialTiles⟩
      obtain ⟨before, new⟩ := entries.1 cities
      exact ⟨⟨before, greeneries, specialTiles⟩, fun _ => new⟩
    · rintro ⟨⟨cities, greeneries, specialTiles⟩, new⟩
      have land : t.kind ≠ .ocean := by simp [kind]
      exact ⟨entries.2 ⟨cities, new land⟩, greeneries, specialTiles⟩
  · obtain ⟨-, unowned, special⟩ := hex_of_status_isEmpty empty
    obtain ⟨ocean, -, rfl⟩ | ⟨kind, rfl⟩ | ⟨kind, rfl⟩ := cover_eq_ok.1 covered
    · constructor
      · rintro ⟨cities, greeneries, specialTiles⟩
        exact ⟨⟨cities, greeneries, specialTiles⟩, fun land => absurd ocean land⟩
      · rintro ⟨⟨cities, greeneries, specialTiles⟩, -⟩
        exact ⟨cities, greeneries, specialTiles⟩
    · have entries := Table.forall_insert_iff (v := t.owner)
        (P := fun _ owner => ∃ p ∈ ps, owner = some p) (owned.get?_eq_none unowned)
      constructor
      · rintro ⟨cities, greeneries, specialTiles⟩
        obtain ⟨before, new⟩ := entries.1 greeneries
        exact ⟨⟨cities, before, specialTiles⟩, fun _ => new⟩
      · rintro ⟨⟨cities, greeneries, specialTiles⟩, new⟩
        have land : t.kind ≠ .ocean := by simp [kind]
        exact ⟨cities, entries.2 ⟨greeneries, new land⟩, specialTiles⟩
    · have entries := Table.forall_insert_iff (v := (t.specialTile, t.owner))
        (P := fun _ e => ∃ p ∈ ps, e.2 = some p) special
      constructor
      · rintro ⟨cities, greeneries, specialTiles⟩
        obtain ⟨before, new⟩ := entries.1 specialTiles
        exact ⟨⟨cities, greeneries, before⟩, fun _ => new⟩
      · rintro ⟨⟨cities, greeneries, specialTiles⟩, new⟩
        have land : t.kind ≠ .ocean := by simp [kind]
        exact ⟨cities, greeneries, entries.2 ⟨specialTiles, new land⟩⟩

end Board

/-- The types of operations that put down a tile with an owner. -/
def OperationType.placesOwned : OperationType → Bool
  | placeCityTile | placeGreenery | placeSpecialTile => true
  | _ => false

namespace Operation

variable {o : Operation} {l : Location} {t : Tile}

theorem Lays.built (h : o.Lays l t) : t.Built := by
  cases h with
  | ocean => exact .ocean
  | city => exact .city _ _
  | greenery => exact .greenery _
  | special => exact .special _ _

theorem Lays.location (h : o.Lays l t) : o.location = some l := by
  cases h with
  | ocean _ there | city _ there | greenery _ there | special _ there => exact there

/-- A tile that is no ocean is put down for the player whom the operation names. -/
theorem Lays.owner (h : o.Lays l t) :
    (t.kind ≠ .ocean ↔ o.type.placesOwned = true) ∧
      (t.kind ≠ .ocean → ∃ p, o.player = some p ∧ t.owner = some p) := by
  cases h with
  | ocean ht =>
    rw [ht]
    exact ⟨by decide, fun land => absurd rfl land⟩
  | city ht _ _ named | greenery ht _ named | special ht _ _ named =>
    rw [ht]
    exact ⟨iff_of_true nofun rfl, fun _ => ⟨_, named, rfl⟩⟩

/-- An operation that puts down a tile with an owner is read as a command that puts down a tile. -/
theorem placeTile_of_placesOwned {c : Command} (read : o.command? = .ok c)
    (places : o.type.placesOwned = true) : ∃ l t, c = .placeTile l t := by
  have type := type_of_command? read
  cases c with
  | placeTile l t => exact ⟨l, t, rfl⟩
  | _ =>
    rw [List.mem_singleton.1 type] at places
    cases places

/-- A command that needs a player is about the player whom the operation names, or puts down a tile
for them. -/
theorem about_of_command? {c : Command} (read : o.command? = .ok c)
    (needs : .player ∈ o.type.required) :
    c.player? = o.player ∨ ∃ l t, c = .placeTile l t := by
  have type := type_of_command? read
  cases c with
  | placeTile l t => exact .inr ⟨l, t, rfl⟩
  | raiseTemperature | raiseOxygen | resetCardActions | advanceGeneration =>
    rw [List.mem_singleton.1 type] at needs
    cases needs
  | _ => exact .inl (player_of_command? read rfl).symm

end Operation

namespace Game

variable {g g' : Game} {o : Operation} {os : List Operation} {p : PlayerId}

/-! ## Operations -/

/-- Every tile, milestone and award that has an owner belongs to a player of the game. -/
structure OwnersPresent (g : Game) : Prop where
  board : g.board.OwnedAmong g.playerIds
  claimed : ∀ p ∈ g.claimed.values, p ∈ g.playerIds
  funded : ∀ p ∈ g.funded.values, p ∈ g.playerIds

/-- The operation puts down a tile for somebody who is not in the game. -/
def Squats (g : Game) (o : Operation) : Prop :=
  o.type.placesOwned = true ∧ ∃ p, o.player = some p ∧ p ∉ g.playerIds

/-- Only commands that put down tiles squat. -/
theorem not_squats_of_command? {c : Command} (read : o.command? = .ok c)
    (other : ∀ l t, c ≠ .placeTile l t) : ¬g.Squats o := by
  rintro ⟨places, -⟩
  obtain ⟨l, t, rfl⟩ := Operation.placeTile_of_placesOwned read places
  exact other l t rfl

/-- The owner of a tile that an operation puts down is present exactly when the operation does not
squat. -/
theorem owner_present_iff {l : Location} {t : Tile} (lays : o.Lays l t) :
    (t.kind ≠ .ocean → ∃ p ∈ g.playerIds, t.owner = some p) ↔ ¬g.Squats o := by
  obtain ⟨land, owner⟩ := lays.owner
  constructor
  · rintro present ⟨places, p, named, absent⟩
    obtain ⟨p', named', owns⟩ := owner (land.2 places)
    obtain ⟨p'', there, owns'⟩ := present (land.2 places)
    obtain rfl : p' = p := Option.some.inj (named'.symm.trans named)
    obtain rfl : p'' = p' := Option.some.inj (owns'.symm.trans owns)
    exact absent there
  · intro honest places
    obtain ⟨p, named, owns⟩ := owner places
    by_cases there : p ∈ g.playerIds
    · exact ⟨p, there, owns⟩
    · exact absurd ⟨land.1 places, p, named, there⟩ honest

/-- Who took the lines of a ledger: a line for a player more or less makes no difference. -/
theorem takers_set_iff {l : Ledger String PlayerId} {name : String} {ps : List PlayerId}
    (free : l.contains name = false) (there : p ∈ ps) :
    (∀ p' ∈ (l.set name p).values, p' ∈ ps) ↔ ∀ p' ∈ l.values, p' ∈ ps := by
  rw [Ledger.values_set free, List.forall_mem_append, List.forall_mem_singleton]
  exact and_iff_left there

/-- Only tiles, honors and ids matter. -/
theorem ownersPresent_congr (board : g.board = g'.board) (claimed : g.claimed = g'.claimed)
    (funded : g.funded = g'.funded) (ids : g.playerIds = g'.playerIds) :
    g.OwnersPresent ↔ g'.OwnersPresent := by
  constructor
  · rintro ⟨tiles, milestones, awards⟩
    rw [board, ids] at tiles
    rw [claimed, ids] at milestones
    rw [funded, ids] at awards
    exact ⟨tiles, milestones, awards⟩
  · rintro ⟨tiles, milestones, awards⟩
    rw [← board, ← ids] at tiles
    rw [← claimed, ← ids] at milestones
    rw [← funded, ← ids] at awards
    exact ⟨tiles, milestones, awards⟩

/-- One operation: the owners are present afterwards exactly when they were before and the operation
does not squat.  No greenery loses its owner, and no player leaves. -/
theorem execute_ownersPresent (owned : g.board.Owned) (h : g.execute o = .accepted g') :
    (g'.OwnersPresent ↔ g.OwnersPresent ∧ ¬g.Squats o) ∧ g'.board.Owned ∧
      g'.playerIds = g.playerIds := by
  obtain ⟨c, g₁, read, marks, rfl⟩ := execute_marks h
  have honest : (∀ l t, c ≠ .placeTile l t) → ¬g.Squats o := not_squats_of_command? read
  cases marks with
  | @tile l t b placed =>
    have lays := Operation.lays_of_command? read
    have tiles : b.OwnedAmong g.playerIds ↔ g.board.OwnedAmong g.playerIds ∧ ¬g.Squats o := by
      rw [Board.ownedAmong_place_iff owned placed, owner_present_iff lays]
    refine ⟨?_, owned.place lays.built.shows placed, rfl⟩
    constructor
    · rintro ⟨board, claimed, funded⟩
      obtain ⟨before, honest⟩ := tiles.1 board
      exact ⟨⟨before, claimed, funded⟩, honest⟩
    · rintro ⟨⟨board, claimed, funded⟩, honest⟩
      exact ⟨tiles.2 ⟨board, honest⟩, claimed, funded⟩
  | temperature | oxygen =>
    refine ⟨?_, owned, rfl⟩
    constructor
    · rintro ⟨⟨cities, greeneries, specialTiles⟩, claimed, funded⟩
      exact ⟨⟨⟨cities, greeneries, specialTiles⟩, claimed, funded⟩, honest (by rintro l t ⟨⟩)⟩
    · rintro ⟨⟨⟨cities, greeneries, specialTiles⟩, claimed, funded⟩, -⟩
      exact ⟨⟨cities, greeneries, specialTiles⟩, claimed, funded⟩
  | @milestone p q name hq free =>
    have takers := takers_set_iff free (mem_playerIds.2 ⟨q, hq⟩)
    refine ⟨?_, owned, rfl⟩
    constructor
    · rintro ⟨board, claimed, funded⟩
      exact ⟨⟨board, takers.1 claimed, funded⟩, honest (by rintro l t ⟨⟩)⟩
    · rintro ⟨⟨board, claimed, funded⟩, -⟩
      exact ⟨board, takers.2 claimed, funded⟩
  | @award p q name hq free =>
    have takers := takers_set_iff free (mem_playerIds.2 ⟨q, hq⟩)
    refine ⟨?_, owned, rfl⟩
    constructor
    · rintro ⟨board, claimed, funded⟩
      exact ⟨⟨board, claimed, takers.1 funded⟩, honest (by rintro l t ⟨⟩)⟩
    · rintro ⟨⟨board, claimed, funded⟩, -⟩
      exact ⟨board, claimed, takers.2 funded⟩
  | @nothing c g₁ hidden unmarked =>
    have other : ∀ l t, c ≠ .placeTile l t := by
      rintro l t rfl
      cases hidden
    refine ⟨?_, ?_, unmarked.playerIds⟩
    · rw [ownersPresent_congr (g := { g₁ with log := g.log ++ [o] }) unmarked.board unmarked.claimed
        unmarked.funded unmarked.playerIds]
      exact (and_iff_left (honest other)).symm
    · show g₁.board.Owned
      rw [unmarked.board]
      exact owned

/-- An operation squats in one game exactly when it does in another with the same players. -/
theorem squats_congr (ids : g'.playerIds = g.playerIds) : g'.Squats o ↔ g.Squats o := by
  rw [Squats, Squats, ids]

/-- A whole run: the owners are present afterwards exactly when they were before and no operation
squats. -/
theorem executeAll_ownersPresent (owned : g.board.Owned) (h : g.executeAll os = .accepted g') :
    g'.OwnersPresent ↔ g.OwnersPresent ∧ ∀ o ∈ os, ¬g.Squats o := by
  induction os generalizing g with
  | nil =>
    cases h
    exact (and_iff_left fun o ho => nomatch ho).symm
  | cons o os ih =>
    obtain ⟨g₁, first, rest⟩ := executeAll_cons_eq_accepted.1 h
    obtain ⟨step, owned₁, ids⟩ := execute_ownersPresent owned first
    rw [ih owned₁ rest, step, List.forall_mem_cons, and_assoc]
    simp only [squats_congr ids]

/-! ## Strangers -/

/-- An operation for somebody who is not in the game is accepted only if it puts down a tile for them,
and then does nothing else. -/
theorem squats_of_absent (h : g.execute o = .accepted g') (needs : .player ∈ o.type.required)
    (named : o.player = some p) (absent : p ∉ g.playerIds) :
    g.Squats o ∧ ∃ l, o.location = some l ∧ (g'.board.status l).owner = some p ∧
      g' = { g with board := g'.board, log := g.log ++ [o] } := by
  obtain ⟨c, g₁, read, carried, rfl⟩ := execute_eq_accepted.1 h
  rcases Operation.about_of_command? read needs with about | ⟨l, t, rfl⟩
  · have missing : g.player? p = none :=
      Option.eq_none_iff_forall_ne_some.2 fun q hq => absent (mem_playerIds.2 ⟨q, hq⟩)
    rw [run_of_absent (about.trans named) missing] at carried
    cases carried
  · have lays := Operation.lays_of_command? read
    obtain ⟨land, owner⟩ := lays.owner
    have places : t.kind ≠ .ocean := by
      cases lays with
      | ocean ht =>
        rw [ht] at needs
        exact absurd needs (by decide)
      | city | greenery | special => nofun
    obtain ⟨p', named', owns⟩ := owner places
    obtain rfl : p' = p := Option.some.inj (named'.symm.trans named)
    obtain ⟨b, placed, rfl⟩ := map_eq_ok.1 carried
    refine ⟨⟨land.1 places, p', named, absent⟩, l, lays.location, ?_, rfl⟩
    rw [Board.status_place_self lays.built placed]
    exact owns

/-- **Owners are players**, as long as nobody squats: after operations that are accepted every tile,
milestone and award belongs to a player of the game exactly when none of them put down a tile for
somebody who is not in the game.  Whatever else needs a player is refused to strangers; their tile goes
down, and nothing else changes. -/
theorem ownersPresent_iff (present : g.OwnersPresent) :
    (∀ os g', g.executeAll os = .accepted g' → (g'.OwnersPresent ↔ ∀ o ∈ os, ¬g.Squats o)) ∧
    ∀ o g' p, g.execute o = .accepted g' → .player ∈ o.type.required → o.player = some p →
      p ∉ g.playerIds → g.Squats o ∧ ∃ l, o.location = some l ∧
        (g'.board.status l).owner = some p ∧
        g' = { g with board := g'.board, log := g.log ++ [o] } := by
  constructor
  · intro os g' accepted
    rw [executeAll_ownersPresent present.board.owned accepted]
    exact and_iff_right present
  · intro o g' p accepted needs named absent
    exact squats_of_absent accepted needs named absent

theorem ownersPresent_newcomer : newcomer.OwnersPresent :=
  ⟨⟨nofun, nofun, nofun⟩, nofun, nofun⟩

/-- In `newcomer` the player builds a city and claims a milestone, and both are theirs. -/
theorem ownersPresent_iff_newcomer :
    newcomer.OwnersPresent ∧ ∃ g', newcomer.executeAll
      [.placeCityTile 1 (.onMars ⟨4, -5⟩) .regular, .claimMilestone 1 "Mayor"] = .accepted g' ∧
        g'.OwnersPresent := by
  have runs : (newcomer.executeAll [.placeCityTile 1 (.onMars ⟨4, -5⟩) .regular,
      .claimMilestone 1 "Mayor"]).toExcept.toOption.isSome = true := by
    decide +kernel
  obtain ⟨g', hg'⟩ := Option.isSome_iff_exists.1 runs
  have accepted := toExcept_eq_ok.1 (toOption_eq_some.1 hg')
  refine ⟨ownersPresent_newcomer, g', accepted, ?_⟩
  refine ((ownersPresent_iff ownersPresent_newcomer).1 _ g' accepted).2 ?_
  have there : (1 : PlayerId) ∈ newcomer.playerIds := by decide
  rintro o ho ⟨-, p, named, absent⟩
  rcases List.mem_cons.1 ho with rfl | ho
  · obtain rfl : 1 = p := Option.some.inj named
    exact absent there
  · rw [List.mem_singleton.1 ho] at named
    obtain rfl : 1 = p := Option.some.inj named
    exact absent there

/-- A city is put down in `newcomer` for somebody who is not in the game. -/
theorem owner_absent_squatter :
    newcomer.OwnersPresent ∧ ∃ g',
      newcomer.execute (.placeCityTile 9 (.onMars ⟨4, -5⟩) .regular) = .accepted g' ∧
        newcomer.player? 9 = none ∧ g'.player? 9 = none ∧
        (g'.board.status (.onMars ⟨4, -5⟩)).owner = some 9 ∧ ¬g'.OwnersPresent := by
  have runs : ((newcomer.execute
      (.placeCityTile 9 (.onMars ⟨4, -5⟩) .regular)).toExcept.toOption.filter fun g' =>
        (g'.player? 9).isNone &&
          decide (g'.board.cities.get? (.onMars ⟨4, -5⟩) = some (some .regular, some 9))).isSome =
      true := by
    decide +kernel
  obtain ⟨g', h⟩ := Option.isSome_iff_exists.1 runs
  obtain ⟨hg', holds⟩ := Option.filter_eq_some_iff.1 h
  obtain ⟨missing, city⟩ := Bool.and_eq_true_iff.1 holds
  have accepted := toExcept_eq_ok.1 (toOption_eq_some.1 hg')
  have absent : g'.player? 9 = none := Option.isNone_iff_eq_none.1 missing
  have built := of_decide_eq_true city
  refine ⟨ownersPresent_newcomer, g', accepted, by decide, absent, ?_, ?_⟩
  · rw [Board.city_iff.2 built]
  · intro present
    obtain ⟨p, there, owner⟩ := present.board.cities _ _ built
    obtain rfl : 9 = p := Option.some.inj owner
    obtain ⟨q, hq⟩ := mem_playerIds.1 there
    rw [absent] at hq
    cases hq

end Game

end Terraforming
