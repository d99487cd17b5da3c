import Terraforming.Proofs.Board.Exclusive

/-!
# What a board shows

A board keeps its tiles in four indexes; what it shows is one map from locations to tiles, beside the
printed spaces.  The map is all that there is to know about the tiles: on a board that its
constructor accepts, and whose greeneries have owners, placing a tile changes the map at one location,
and every question about the tiles is answered from the map.

* `View` — the spaces, the map, and the questions asked of them;
* `place_ok_iff`, `view_after` — a tile is put down exactly when the map accepts it, and then the map
  is changed at its location alone;
* `refines_view` — so the indexes refine the map, question by question;
* `view_afterAll` — and they still do after any number of tiles.
-/

namespace Terraforming

/-- A tile as the constructors make it. -/
inductive Tile.Built : Tile → Prop where
  | empty : Built .empty
  | ocean : Built .ocean
  | city (kind : CityKind) (p : PlayerId) : Built (.city kind p)
  | greenery (p : PlayerId) : Built (.greenery p)
  | special (tile : SpecialTile) (p : PlayerId) : Built (.special tile p)

theorem Tile.Built.shows {t : Tile} (built : t.Built) : t.Shows := by
  cases built with
  | greenery p => exact fun _ => rfl
  | empty | ocean | city | special => exact nofun

/-- The printed spaces, and what each location holds. -/
structure View where
  spaces : Table Location Space
  tile : Location → Tile

namespace View

variable (v : View)

/-! ## Counting and listing -/

def locations : List Location := v.spaces.keys

/-- The spaces on Mars. -/
def hexes : List Hex := v.locations.filterMap Location.hex?

def oceanCount : Nat := v.hexes.countP fun h => (v.tile (.onMars h)).kind = .ocean

def cityCount (onMarsOnly : Bool) (owner : Option PlayerId) : Nat :=
  v.locations.countP fun l => (v.tile l).kind = .city &&
    ((!onMarsOnly || l.isOnMars) && (owner.isNone || decide ((v.tile l).owner = owner)))

def citiesOf (p : PlayerId) : List (Location × Option CityKind) :=
  (v.locations.filter fun l => (v.tile l).kind = .city && decide ((v.tile l).owner = some p)).map
    fun l => (l, (v.tile l).cityKind)

def greeneriesOf (p : PlayerId) : List Hex :=
  v.hexes.filter fun h => v.tile (.onMars h) = .greenery p

def specialTilesOf (p : PlayerId) : List (Hex × Option SpecialTile) :=
  (v.hexes.filter fun h => (v.tile (.onMars h)).kind = .specialTile &&
    decide ((v.tile (.onMars h)).owner = some p)).map
    fun h => (h, (v.tile (.onMars h)).specialTile)

/-! ## Neighbours -/

/-- What the neighbours hold. -/
def around (l : Location) : List Tile := l.neighbors.map fun h => v.tile (.onMars h)

/-- How many neighbours hold a tile of one kind. -/
def adjacent (kind : TileKind) (l : Location) : Nat := (v.around l).countP fun t => t.kind = kind

/-- How many neighbours hold a tile. -/
def adjacentTiles (l : Location) : Nat := (v.around l).countP fun t => !t.isEmpty

def nextToOwnTile (p : PlayerId) (l : Location) : Bool :=
  (v.around l).any fun t => t.owner = some p

/-! ## Placing -/

def passes (p : PlayerId) (space : Space) (l : Location) (r : Restriction) : Bool :=
  match r.type with
  | .landTile => space.designations.contains .land
  | .reservedForOcean => space.designations.contains .reservedForOcean
  | .onMetalBonus => space.bonuses.any fun i =>
      i.type = .gainResource && (i.resource = some .steel || i.resource = some .titanium)
  | .atSite => r.site.any space.sites.contains
  | .adjacentToOwnedTile => v.nextToOwnTile p l
  | .adjacentToOwnedTileIfAble => true
  | .notNextToAnyOtherTile => v.adjacentTiles l = 0
  | .notNextToCity => v.adjacent .city l = 0
  | .nextToCity => 1 ≤ v.adjacent .city l
  | .nextToTwoCities => 2 ≤ v.adjacent .city l
  | .nextToGreenery => 1 ≤ v.adjacent .greenery l

def allows (p : PlayerId) (l : Location) (rs : List Restriction) : Bool :=
  match v.spaces.get? l with
  | none => false
  | some space => (v.tile l).isEmpty && rs.all (v.passes p space l)

/-- Whether a tile can be put down: on an empty space, a city anywhere, and on Mars anything that is
a tile, but no tenth ocean. -/
def accepts (l : Location) (t : Tile) : Bool :=
  v.spaces.contains l && (v.tile l).isEmpty &&
    (t.isCity || (l.isOnMars && !t.isEmpty && (t.kind ≠ .ocean || v.oceanCount < maxOceans)))

/-- The map changed at one location. -/
def put (l : Location) (t : Tile) : View :=
  { v with tile := fun l' => if l' = l then t else v.tile l' }

/-- The map after an attempt to put a tile down. -/
def after (l : Location) (t : Tile) : View := if v.accepts l t then v.put l t else v

end View

namespace Board

variable {b b' : Board} {l : Location} {h : Hex} {t : Tile}

/-- What a board shows. -/
def view (b : Board) : View := ⟨b.spaces, b.status⟩

/-- The board after an attempt to put a tile down: a tile that is refused changes nothing. -/
def after (b : Board) (l : Location) (t : Tile) : Board :=
  match b.place l t with
  | .ok b' => b'
  | .error _ => b

/-- Every question about the tiles is answered as the view answers it. -/
structure ReadsAs (b : Board) (v : View) : Prop where
  oceanCount : b.oceanCount = v.oceanCount
  cityCount : ∀ onMarsOnly owner, b.cityCount onMarsOnly owner = v.cityCount onMarsOnly owner
  citiesOf : ∀ p, (b.citiesOf p).Perm (v.citiesOf p)
  greeneriesOf : ∀ p, (b.greeneriesOf p).Perm (v.greeneriesOf p)
  specialTilesOf : ∀ p, (b.specialTilesOf p).Perm (v.specialTilesOf p)
  adjacentOceans : ∀ l, b.adjacentOceans l = v.adjacent .ocean l
  adjacentCities : ∀ l, b.adjacentCities l = v.adjacent .city l
  adjacentGreeneries : ∀ l, b.adjacentGreeneries l = v.adjacent .greenery l
  adjacentTiles : ∀ l, b.adjacentTiles l = v.adjacentTiles l
  nextToOwnTile : ∀ p l, b.nextToOwnTile p l = v.nextToOwnTile p l
  allows : ∀ p l rs, b.allows p l rs = v.allows p l rs

/-! ## What each kind of tile says about the indexes -/

theorem kind_city_iff : (b.status l).kind = .city ↔ b.cities.contains l = true := by
  constructor
  · intro kind
    have held := b.shown_status l
    generalize b.status l = t at held kind
    cases held with
    | city held => simp [Table.contains, held]
    | ocean | greenery | specialTile | empty => cases kind
  · intro held
    obtain ⟨⟨kind, owner⟩, held⟩ := Option.isSome_iff_exists.1 held
    rw [city_iff.2 held]

theorem Consistent.kind_ocean_iff (consistent : b.Consistent) :
    (b.status (.onMars h)).kind = .ocean ↔ b.oceans.contains h = true := by
  constructor
  · intro kind
    have held := b.shown_status (.onMars h)
    generalize b.status (.onMars h) = t at held kind
    cases held with
    | ocean held => exact held
    | city | greenery | specialTile | empty => cases kind
  · intro held
    rw [consistent.ocean_iff.2 held]
    rfl

theorem Consistent.kind_greenery_iff (consistent : b.Consistent) (owned : b.Owned) :
    (b.status (.onMars h)).kind = .greenery ↔ b.greeneries.contains h = true := by
  constructor
  · intro kind
    have held := b.shown_status (.onMars h)
    generalize b.status (.onMars h) = t at held kind
    cases held with
    | greenery held => simp [Table.contains, held]
    | city | ocean | specialTile | empty => cases kind
  · intro held
    obtain ⟨owner, held⟩ := Option.isSome_iff_exists.1 held
    obtain ⟨p, rfl⟩ := Option.isSome_iff_exists.1 (owned h owner held)
    rw [consistent.greenery_iff.2 held]
    rfl

/-! ## Counting and listing -/

/-- The keys of the entries that pass a test are the members of a list that pass another, if both
tests pick out the same keys. -/
theorem keys_filter_perm {κ ν : Type} [Ord κ] [Std.LawfulEqOrd κ] {t : Table κ ν}
    {P : κ × ν → Bool} {ks : List κ} {Q : κ → Bool} (distinct : ks.Nodup)
    (same : ∀ k, (∃ v, t.get? k = some v ∧ P (k, v) = true) ↔ k ∈ ks ∧ Q k = true) :
    ((t.entries.filter P).map (·.1)).Perm (ks.filter Q) := by
  have once : ((t.entries.filter P).map (·.1)).Nodup :=
    t.nodup_keys.sublist (List.filter_sublist.map _)
  refine (List.perm_ext_iff_of_nodup once (distinct.filter Q)).2 fun k => ?_
  rw [List.mem_filter, ← same k, List.mem_map]
  constructor
  · rintro ⟨⟨k, v⟩, he, rfl⟩
    obtain ⟨he, passed⟩ := List.mem_filter.1 he
    exact ⟨v, Table.get?_eq_some_iff.2 he, passed⟩
  · rintro ⟨v, hv, passed⟩
    exact ⟨(k, v), List.mem_filter.2 ⟨Table.get?_eq_some_iff.1 hv, passed⟩, rfl⟩

theorem nodup_locations (v : View) : v.locations.Nodup := v.spaces.nodup_keys

theorem nodup_hexes (v : View) : v.hexes.Nodup := by
  refine (nodup_locations v).filterMap ?_
  rintro l l' h hl hl'
  cases l with
  | offMars s => cases hl
  | onMars x =>
    cases l' with
    | offMars s => cases hl'
    | onMars y =>
      cases hl
      cases hl'
      rfl

theorem mem_hexes {v : View} : h ∈ v.hexes ↔ Location.onMars h ∈ v.locations := by
  rw [View.hexes, List.mem_filterMap]
  constructor
  · rintro ⟨l, hl, hex⟩
    cases l with
    | offMars s => cases hex
    | onMars x =>
      cases hex
      exact hl
  · intro hl
    exact ⟨_, hl, rfl⟩

theorem Consistent.mem_locations (consistent : b.Consistent) (held : l ∈ b.occupied) :
    l ∈ b.view.locations :=
  Table.contains_iff.1 (consistent.onBoard l held)

/-- An entry of the cities is a location that shows a city, with what it shows of it. -/
theorem Consistent.city_entry (consistent : b.Consistent)
    (P : Option CityKind × Option PlayerId → Prop) :
    (∃ c, b.cities.get? l = some c ∧ P c) ↔
      l ∈ b.view.locations ∧ (b.status l).kind = .city ∧
        P ((b.status l).cityKind, (b.status l).owner) := by
  constructor
  · rintro ⟨⟨kind, owner⟩, held, passed⟩
    have there : b.cities.contains l = true := by simp [Table.contains, held]
    rw [city_iff.2 held]
    exact ⟨consistent.mem_locations (mem_occupied.2 (.inl there)), rfl, passed⟩
  · rintro ⟨-, kind, passed⟩
    obtain ⟨⟨kind, owner⟩, held⟩ := Option.isSome_iff_exists.1 (kind_city_iff.1 kind)
    rw [city_iff.2 held] at passed
    exact ⟨_, held, passed⟩

/-- An entry of the special tiles is a hex that shows one, with what it shows of it. -/
theorem Consistent.specialTile_entry (consistent : b.Consistent)
    (P : Option SpecialTile × Option PlayerId → Prop) :
    (∃ s, b.specialTiles.get? h = some s ∧ P s) ↔
      h ∈ b.view.hexes ∧ (b.status (.onMars h)).kind = .specialTile ∧
        P ((b.status (.onMars h)).specialTile, (b.status (.onMars h)).owner) := by
  rw [mem_hexes]
  constructor
  · rintro ⟨⟨tile, owner⟩, held, passed⟩
    have there : b.specialTiles.contains h = true := by simp [Table.contains, held]
    rw [consistent.specialTile_iff.2 held]
    exact ⟨consistent.mem_locations (mem_occupied.2 (.inr ⟨h, rfl, .inr (.inr there)⟩)), rfl, passed⟩
  · rintro ⟨-, kind, passed⟩
    have held := b.shown_status (.onMars h)
    generalize b.status (.onMars h) = t at held kind passed
    cases held with
    | specialTile held => exact ⟨_, held, passed⟩
    | city | ocean | greenery | empty => cases kind

/-- An entry of the greeneries is a hex that shows the greenery of its owner. -/
theorem Consistent.greenery_entry (consistent : b.Consistent) {p : PlayerId} :
    b.greeneries.get? h = some (some p) ↔
      h ∈ b.view.hexes ∧ b.status (.onMars h) = .greenery p := by
  rw [mem_hexes, consistent.greenery_iff]
  constructor
  · intro held
    have there : b.greeneries.contains h = true := by simp [Table.contains, held]
    exact ⟨consistent.mem_locations (mem_occupied.2 (.inr ⟨h, rfl, .inr (.inl there)⟩)), held⟩
  · exact And.right

/-- An ocean is a hex that shows one. -/
theorem Consistent.ocean_entry (consistent : b.Consistent) :
    b.oceans.contains h = true ↔ h ∈ b.view.hexes ∧ (b.status (.onMars h)).kind = .ocean := by
  rw [mem_hexes, consistent.kind_ocean_iff]
  constructor
  · intro held
    exact ⟨consistent.mem_locations (mem_occupied.2 (.inr ⟨h, rfl, .inl held⟩)), held⟩
  · exact And.right

theorem Consistent.oceanCount_view (consistent : b.Consistent) :
    b.oceanCount = b.view.oceanCount := by
  have same : ∀ h, (∃ u, b.oceans.get? h = some u ∧ true = true) ↔
      h ∈ b.view.hexes ∧ decide ((b.view.tile (.onMars h)).kind = .ocean) = true := by
    intro h
    have entry : b.oceans.contains h = true ↔
        h ∈ b.view.hexes ∧ (b.view.tile (.onMars h)).kind = .ocean := consistent.ocean_entry
    rw [decide_eq_true_iff, ← entry, Table.contains, Option.isSome_iff_exists]
    simp only [and_true]
  have listed := (keys_filter_perm (P := fun _ => true) (nodup_hexes b.view) same).length_eq
  rw [List.length_map, List.filter_true, ← List.countP_eq_length_filter] at listed
  exact listed

theorem Consistent.cityCount_view (consistent : b.Consistent) (onMarsOnly : Bool)
    (owner : Option PlayerId) :
    b.cityCount onMarsOnly owner = b.view.cityCount onMarsOnly owner := by
  rw [cityCount, View.cityCount, List.countP_eq_length_filter, List.countP_eq_length_filter,
    ← List.length_map (f := Prod.fst)]
  refine (keys_filter_perm (nodup_locations b.view) fun l => ?_).length_eq
  rw [Bool.and_eq_true, decide_eq_true_iff]
  exact consistent.city_entry fun c =>
    ((!onMarsOnly || l.isOnMars) && (owner.isNone || decide (c.2 = owner))) = true

theorem Consistent.citiesOf_view (consistent : b.Consistent) (p : PlayerId) :
    (b.citiesOf p).Perm (b.view.citiesOf p) := by
  have listed : b.citiesOf p = ((b.cities.entries.filter fun e => e.2.2 = some p).map (·.1)).map
      fun l => (l, (b.status l).cityKind) := by
    rw [List.map_map]
    refine List.map_congr_left fun e he => ?_
    have held := Table.get?_eq_some_iff.2 (List.mem_filter.1 he).1
    show (e.1, e.2.1) = (e.1, (b.status e.1).cityKind)
    rw [city_iff.2 held]
  rw [listed]
  refine (keys_filter_perm (nodup_locations b.view) fun l => ?_).map _
  rw [Bool.and_eq_true, decide_eq_true_iff]
  exact consistent.city_entry fun c => decide (c.2 = some p) = true

theorem Consistent.specialTilesOf_view (consistent : b.Consistent) (p : PlayerId) :
    (b.specialTilesOf p).Perm (b.view.specialTilesOf p) := by
  have listed : b.specialTilesOf p =
      ((b.specialTiles.entries.filter fun e => e.2.2 = some p).map (·.1)).map
        fun h => (h, (b.status (.onMars h)).specialTile) := by
    rw [List.map_map]
    refine List.map_congr_left fun e he => ?_
    have held := Table.get?_eq_some_iff.2 (List.mem_filter.1 he).1
    show (e.1, e.2.1) = (e.1, (b.status (.onMars e.1)).specialTile)
    rw [consistent.specialTile_iff.2 held]
  rw [listed]
  refine (keys_filter_perm (nodup_hexes b.view) fun h => ?_).map _
  rw [Bool.and_eq_true, decide_eq_true_iff]
  exact consistent.specialTile_entry fun s => decide (s.2 = some p) = true

theorem Consistent.greeneriesOf_view (consistent : b.Consistent) (p : PlayerId) :
    (b.greeneriesOf p).Perm (b.view.greeneriesOf p) := by
  refine keys_filter_perm (nodup_hexes b.view) fun h => ?_
  have entry : b.greeneries.get? h = some (some p) ↔
      h ∈ b.view.hexes ∧ b.view.tile (.onMars h) = .greenery p := consistent.greenery_entry
  simp only [decide_eq_true_eq, exists_eq_right]
  exact entry

/-! ## Neighbours -/

/-- Counting neighbours in an index is counting those that show its kind. -/
theorem countP_neighbors {P : Hex → Bool} {kind : TileKind}
    (same : ∀ h, (b.status (.onMars h)).kind = kind ↔ P h = true) (l : Location) :
    l.neighbors.countP P = b.view.adjacent kind l := by
  rw [View.adjacent, View.around, List.countP_map]
  refine List.countP_congr fun h _ => ?_
  rw [← same h]
  exact decide_eq_true_iff.symm

/-- **The indexes are read as the view.** -/
theorem Consistent.readsAs (consistent : b.Consistent) (owned : b.Owned) : b.ReadsAs b.view := by
  have oceans := countP_neighbors fun _ => consistent.kind_ocean_iff
  have cities := countP_neighbors fun h => kind_city_iff (b := b) (l := .onMars h)
  have greeneries := countP_neighbors fun _ => consistent.kind_greenery_iff owned
  have passes : ∀ p space l, b.passes p space l = b.view.passes p space l := by
    intro p space l
    funext r
    have cities : b.adjacentCities l = b.view.adjacent .city l := cities l
    have greeneries : b.adjacentGreeneries l = b.view.adjacent .greenery l := greeneries l
    rw [Board.passes, View.passes, cities, greeneries]
    rfl
  refine ⟨consistent.oceanCount_view, consistent.cityCount_view, consistent.citiesOf_view,
    consistent.greeneriesOf_view, consistent.specialTilesOf_view, oceans, cities, greeneries,
    fun l => rfl, fun p l => rfl, fun p l rs => ?_⟩
  rw [Board.allows, View.allows]
  simp only [passes]
  rfl

/-! ## Placing -/

theorem accepts_iff {v : View} : v.accepts l t = true ↔
    v.spaces.contains l = true ∧ (v.tile l).isEmpty = true ∧
      (t.isCity = true ∨ l.isOnMars = true ∧ t.isEmpty = false ∧
        (t.kind = .ocean → v.oceanCount < maxOceans)) := by
  simp only [View.accepts, Bool.and_eq_true, Bool.or_eq_true, Bool.not_eq_true', decide_eq_true_iff,
    and_assoc, ne_eq, imp_iff_not_or]

theorem oceansMaxed_eq_false : b.oceansMaxed = false ↔ b.oceanCount < maxOceans := by
  rw [oceansMaxed, decide_eq_false_iff_not, Nat.not_le]

/-- **A tile is put down** exactly when the view accepts it. -/
theorem Consistent.place_ok_iff (consistent : b.Consistent) :
    (∃ b', b.place l t = .ok b') ↔ b.view.accepts l t = true := by
  rw [accepts_iff, ← consistent.oceanCount_view, ← oceansMaxed_eq_false]
  constructor
  · rintro ⟨b', hp⟩
    obtain ⟨space, empty, ⟨city, -⟩ | ⟨h, rfl, -, covered⟩⟩ := place_eq_ok.1 hp
    · exact ⟨space, empty, .inl city⟩
    · refine ⟨space, empty, .inr ⟨rfl, ?_⟩⟩
      obtain ⟨kind, left, -⟩ | ⟨kind, -⟩ | ⟨kind, -⟩ := cover_eq_ok.1 covered
      · simp [Tile.isEmpty, kind, left]
      · simp [Tile.isEmpty, kind]
      · simp [Tile.isEmpty, kind]
  · rintro ⟨space, empty, fits⟩
    by_cases city : t.isCity = true
    · exact ⟨_, place_eq_ok.2 ⟨space, empty, .inl ⟨city, rfl⟩⟩⟩
    · obtain ⟨mars, tile, left⟩ := fits.resolve_left city
      cases l with
      | offMars s => cases mars
      | onMars h =>
        -- the hex is free in every index, so only the kind of the tile decides
        obtain ⟨b', covered⟩ : ∃ b', b.cover h t = .ok b' := by
          simp only [cover_eq_ok]
          cases kind : t.kind with
          | empty => simp [Tile.isEmpty, kind] at tile
          | city => simp [Tile.isCity, kind] at city
          | ocean => exact ⟨_, .inl ⟨rfl, left kind, rfl⟩⟩
          | greenery => exact ⟨_, .inr (.inl ⟨rfl, rfl⟩)⟩
          | specialTile => exact ⟨_, .inr (.inr ⟨rfl, rfl⟩)⟩
        exact ⟨b', place_eq_ok.2 ⟨space, empty, .inr ⟨h, rfl, Bool.not_eq_true _ ▸ city, covered⟩⟩⟩

/-- What a location shows is read off the entries at the location. -/
theorem status_congr (cities : b'.cities.get? l = b.cities.get? l)
    (hex : ∀ h, l = .onMars h → b'.oceans.contains h = b.oceans.contains h ∧
      b'.greeneries.getD h none = b.greeneries.getD h none ∧
      b'.specialTiles.get? h = b.specialTiles.get? h) :
    b'.status l = b.status l := by
  unfold status
  rw [cities]
  cases l with
  | offMars s => rfl
  | onMars h =>
    obtain ⟨oceans, greeneries, specialTiles⟩ := hex h rfl
    dsimp only
    rw [oceans, greeneries, specialTiles]

/-- A tile that is put down shows where it was put. -/
theorem status_place_self (built : t.Built) (hp : b.place l t = .ok b') : b'.status l = t := by
  obtain ⟨-, empty, ⟨city, rfl⟩ | ⟨h, rfl, noCity, covered⟩⟩ := place_eq_ok.1 hp
  · cases built with
    | city kind p => simp [status, Tile.city]
    | empty | ocean | greenery | special => cases city
  · have city := city_of_status_isEmpty empty
    obtain ⟨ocean, greenery, -⟩ := hex_of_status_isEmpty empty
    cases built with
    | city kind p => cases noCity
    | empty => cases covered
    | ocean =>
      obtain ⟨-, -, rfl⟩ | ⟨kind, -⟩ | ⟨kind, -⟩ := cover_eq_ok.1 covered
      · simp [status, city, KeySet.add, Table.contains]
      · cases kind
      · cases kind
    | greenery p =>
      obtain ⟨kind, -⟩ | ⟨-, rfl⟩ | ⟨kind, -⟩ := cover_eq_ok.1 covered
      · cases kind
      · simp [status, city, ocean, Table.getD, Tile.greenery]
      · cases kind
    | special tile p =>
      obtain ⟨kind, -⟩ | ⟨kind, -⟩ | ⟨-, rfl⟩ := cover_eq_ok.1 covered
      · cases kind
      · cases kind
      · simp [status, city, ocean, greenery, Tile.special]

/-- Nothing changes where the tile was not put. -/
theorem status_place_of_ne {l' : Location} (other : l' ≠ l) (hp : b.place l t = .ok b') :
    b'.status l' = b.status l' := by
  obtain ⟨-, -, ⟨-, rfl⟩ | ⟨h, rfl, -, covered⟩⟩ := place_eq_ok.1 hp
  · exact status_congr (Table.get?_insert_of_ne _ _ other) fun h _ => ⟨rfl, rfl, rfl⟩
  · have apart : ∀ h', l' = .onMars h' → h' ≠ h := fun h' hex same => other (same ▸ hex)
    obtain ⟨-, -, rfl⟩ | ⟨-, rfl⟩ | ⟨-, rfl⟩ := cover_eq_ok.1 covered
    · refine status_congr rfl fun h' hex => ⟨?_, rfl, rfl⟩
      rw [KeySet.add, Table.contains, Table.get?_insert_of_ne _ _ (apart h' hex), Table.contains]
    · refine status_congr rfl fun h' hex => ⟨rfl, ?_, rfl⟩
      rw [Table.getD, Table.get?_insert_of_ne _ _ (apart h' hex), Table.getD]
    · exact status_congr rfl fun h' hex =>
        ⟨rfl, rfl, Table.get?_insert_of_ne _ _ (apart h' hex)⟩

/-- **Placing changes the view at one location**, if at all. -/
theorem Consistent.view_after (consistent : b.Consistent) (built : t.Built) :
    (b.after l t).view = b.view.after l t := by
  have accepted := consistent.place_ok_iff (l := l) (t := t)
  unfold Board.after View.after
  split
  next b' hp =>
    rw [if_pos (accepted.1 ⟨b', hp⟩), View.put, view, (place_frame hp).1]
    congr 1
    funext l'
    split
    next same =>
      subst same
      exact status_place_self built hp
    next other => exact status_place_of_ne other hp
  next f hp =>
    have refused : ¬b.view.accepts l t = true := by
      rw [← accepted]
      rintro ⟨b', placed⟩
      cases hp.symm.trans placed
    rw [if_neg refused]

/-- What the constructor accepts, it accepts after an attempt to put a tile down. -/
theorem Consistent.after (consistent : b.Consistent) (owned : b.Owned) (built : t.Built) :
    (b.after l t).Consistent ∧ (b.after l t).Owned := by
  unfold Board.after
  split
  next b' hp => exact ⟨consistent.place owned hp, owned.place built.shows hp⟩
  next => exact ⟨consistent, owned⟩

/-! ## The indexes and the map -/

/-- **Four indexes refine one map.**  Of a board that passes its checks, and whose greeneries have
owners: a tile is put down exactly when the map accepts it, the map is then changed at its location
alone and not at all otherwise, and every question about the tiles is answered from the map and the
spaces. -/
theorem refines_view (passes : b.conflict? = none) (owned : b.Owned) :
    (∀ l t, t.Built →
      ((∃ b', b.place l t = .ok b') ↔ b.view.accepts l t = true) ∧
        (b.after l t).view = b.view.after l t) ∧
      b.ReadsAs b.view := by
  have consistent := conflict?_eq_none_iff.1 passes
  exact ⟨fun l t built => ⟨consistent.place_ok_iff, consistent.view_after built⟩,
    consistent.readsAs owned⟩

/-- Five spaces on Mars and one off it, with a tile of every kind and one space left. -/
def hamlet : Board := Contents.board {
  spaces := [
    { location := .onMars ⟨3, -3⟩, designations := KeySet.ofList [.reservedForOcean] },
    { location := .onMars ⟨4, -4⟩, designations := KeySet.ofList [.land] },
    { location := .onMars ⟨4, -3⟩, designations := KeySet.ofList [.reservedForOcean] },
    { location := .onMars ⟨5, -5⟩, designations := KeySet.ofList [.land] },
    { location := .onMars ⟨5, -4⟩, designations := KeySet.ofList [.land] },
    { location := .offMars .phobosSpaceHaven, designations := KeySet.ofList [.offMars] }]
  cities := [(.offMars .phobosSpaceHaven, (some .phobosSpaceHaven, some 1)),
    (.onMars ⟨4, -4⟩, (some .regular, some 2))]
  oceans := [⟨4, -3⟩]
  greeneries := [(⟨5, -5⟩, some 2)]
  specialTiles := [(⟨5, -4⟩, (some .moholeArea, some 1))] }

/-- In `hamlet` an ocean goes onto the space that is left, and a greenery not onto one that is
taken. -/
theorem refines_view_hamlet :
    hamlet.conflict? = none ∧ hamlet.Owned ∧
      (hamlet.after (.onMars ⟨3, -3⟩) .ocean).view =
        hamlet.view.put (.onMars ⟨3, -3⟩) .ocean ∧
      (hamlet.after (.onMars ⟨5, -5⟩) (.greenery 1)).view = hamlet.view ∧
      hamlet.ReadsAs hamlet.view := by
  have passes : hamlet.conflict? = none := by decide
  have owned : hamlet.Owned := by
    intro h owner held
    have all : ∀ e ∈ hamlet.greeneries.entries, e.2.isSome = true := by decide
    exact all _ (Table.get?_eq_some_iff.1 held)
  obtain ⟨placing, reading⟩ := refines_view passes owned
  refine ⟨passes, owned, ?_, ?_, reading⟩
  · rw [(placing _ _ .ocean).2, View.after, if_pos (by decide)]
  · rw [(placing _ _ (.greenery 1)).2, View.after, if_neg (by decide)]

/-- **After any number of tiles** the map is the one that the same tiles make of it, and the board
is still read as the map. -/
theorem view_afterAll {tiles : List (Location × Tile)} (consistent : b.Consistent) (owned : b.Owned)
    (built : ∀ e ∈ tiles, e.2.Built) :
    (tiles.foldl (fun b e => b.after e.1 e.2) b).view =
        tiles.foldl (fun v e => v.after e.1 e.2) b.view ∧
      (tiles.foldl (fun b e => b.after e.1 e.2) b).ReadsAs
        (tiles.foldl (fun v e => v.after e.1 e.2) b.view) := by
  induction tiles generalizing b with
  | nil => exact ⟨rfl, consistent.readsAs owned⟩
  | cons e tiles ih =>
    obtain ⟨first, built⟩ := List.forall_mem_cons.1 built
    obtain ⟨consistent', owned'⟩ := consistent.after (l := e.1) owned first
    rw [List.foldl_cons, List.foldl_cons, ← consistent.view_after first]
    exact ih consistent' owned' built

end Board

end Terraforming
