import Mathlib.Algebra.BigOperators.Group.Finset.Basic
import Mathlib.Algebra.BigOperators.Group.Finset.Piecewise
import Terraforming.Player.Scoring
import Terraforming.Proofs.Board.Distance
import Terraforming.Proofs.Board.View

/-!
# What a tile is worth

Tiles are scored from their owners outwards: a city counts the greeneries around it, a capital the
oceans as well, and a commercial district the cities.  Seen from one tile, a tile that is put down earns
its owner something from each of its neighbours, and each neighbour earns its owner something from it.
The two come to the same because being near is symmetric, as long as the spaces on Mars are within
bounds.

* `Tile.earns` — what a tile earns from one neighbour, of which both accounts are made;
* `Board.tilePoints_eq_score` — the points of a player as a sum over all locations;
* `Location.near_comm`, `View.score_put` — one tile more;
* `Board.tilePoints_place` — so a tile changes the points by what it is worth (`Tile.worth`) there.
-/

namespace Terraforming

open Finset

/-! ## Tiles -/

namespace Tile

variable {t u : Tile} {p : PlayerId}

/-- The tile as a board shows it: of the kind of city, the name and the owner only what goes with its
kind. -/
def shown (t : Tile) : Tile :=
  match t.kind with
  | .city => { kind := .city, owner := t.owner, cityKind := t.cityKind }
  | .specialTile => { kind := .specialTile, owner := t.owner, specialTile := t.specialTile }
  | .greenery => { kind := .greenery, owner := t.owner }
  | .ocean => .ocean
  | .empty => .empty

/-- What a tile earns a player wherever it lies. -/
def own (t : Tile) (p : PlayerId) : Int :=
  if t.kind = .greenery ∧ t.owner = some p then 1 else 0

/-- What a tile earns a player from a neighbour. -/
def earns (t : Tile) (p : PlayerId) (u : Tile) : Int :=
  if t.owner = some p then
    match t.kind with
    | .city =>
      (if t.cityKind = some .capital ∧ u.kind = .ocean then 1 else 0) +
        if u.kind = .greenery then 1 else 0
    | .specialTile => if t.specialTile = some .commercialDistrict ∧ u.kind = .city then 1 else 0
    | _ => 0
  else 0

/-- What a tile is worth to a player among these neighbours, to whoever owns it and to whoever owns
them. -/
def worth (t : Tile) (around : List Tile) (p : PlayerId) : Int :=
  match t.kind with
  | .greenery =>
    (if t.owner = some p then 1 else 0) +
      (around.countP fun u => u.kind = .city ∧ u.owner = some p : Int)
  | .ocean =>
    (around.countP fun u => u.kind = .city ∧ u.owner = some p ∧ u.cityKind = some .capital : Int)
  | .city =>
    (if t.owner = some p then
      (around.countP fun u => u.kind = .greenery : Int) +
        (if t.cityKind = some .capital then (around.countP fun u => u.kind = .ocean : Int) else 0)
    else 0) +
      (around.countP fun u => u.kind = .specialTile ∧ u.owner = some p ∧
        u.specialTile = some .commercialDistrict : Int)
  | .specialTile =>
    if t.specialTile = some .commercialDistrict ∧ t.owner = some p then
      (around.countP fun u => u.kind = .city : Int)
    else 0
  | .empty => 0

theorem worth_nonneg (t : Tile) (around : List Tile) (p : PlayerId) : 0 ≤ t.worth around p := by
  unfold worth
  split
  · split <;> omega
  · omega
  · split
    · split <;> omega
    · omega
  · split <;> omega
  · exact Int.le_refl 0

/-- Nothing else about a tile matters to what it is worth. -/
theorem worth_shown (t : Tile) (around : List Tile) (p : PlayerId) :
    t.shown.worth around p = t.worth around p := by
  cases kind : t.kind <;> simp [worth, shown, kind, ocean, empty]

theorem isEmpty_iff : t.isEmpty = true ↔ t.kind = .empty := decide_eq_true_iff

/-- An empty location earns nothing, -/
theorem earns_of_isEmpty (h : t.isEmpty = true) : t.earns p u = 0 := by
  simp [earns, isEmpty_iff.1 h]

theorem own_of_isEmpty (h : t.isEmpty = true) : t.own p = 0 := by
  simp [own, isEmpty_iff.1 h]

/-- and nothing is earned from one. -/
theorem earns_isEmpty (h : u.isEmpty = true) : t.earns p u = 0 := by
  unfold earns
  rw [isEmpty_iff.1 h]
  cases t.kind <;> simp

/-! ### Neighbour by neighbour -/

/-- Greeneries and oceans earn nothing from others. -/
theorem earns_eq_zero (barren : t.kind ≠ .city ∧ t.kind ≠ .specialTile) : t.earns p u = 0 := by
  obtain ⟨city, special⟩ := barren
  unfold earns
  cases kind : t.kind with
  | city => exact absurd kind city
  | specialTile => exact absurd kind special
  | empty | ocean | greenery => exact ite_self 0

/-- A greenery is counted by cities, -/
theorem earns_greenery (kind : t.kind = .greenery) :
    u.earns p t = if u.kind = .city ∧ u.owner = some p then 1 else 0 := by
  by_cases owner : u.owner = some p <;> cases hu : u.kind <;> simp [earns, owner, hu, kind]

/-- an ocean by capitals, -/
theorem earns_ocean (kind : t.kind = .ocean) :
    u.earns p t =
      if u.kind = .city ∧ u.owner = some p ∧ u.cityKind = some .capital then 1 else 0 := by
  by_cases owner : u.owner = some p <;> cases hu : u.kind <;> simp [earns, owner, hu, kind]

/-- a city by commercial districts, -/
theorem earns_city (kind : t.kind = .city) :
    u.earns p t = if u.kind = .specialTile ∧ u.owner = some p ∧
      u.specialTile = some .commercialDistrict then 1 else 0 := by
  by_cases owner : u.owner = some p <;> cases hu : u.kind <;> simp [earns, owner, hu, kind]

/-- and a special tile by nobody. -/
theorem earns_specialTile (kind : t.kind = .specialTile) : u.earns p t = 0 := by
  by_cases owner : u.owner = some p <;> cases hu : u.kind <;> simp [earns, owner, hu, kind]

theorem countP_cons_ite (P : Tile → Prop) [DecidablePred P] (u : Tile) (us : List Tile) :
    ((u :: us).countP (fun u => P u) : Int) =
      us.countP (fun u => P u) + if P u then 1 else 0 := by
  rw [List.countP_cons]
  by_cases h : P u <;> simp [h]

theorem worth_nil (t : Tile) (p : PlayerId) : t.worth [] p = t.own p := by
  cases kind : t.kind <;> simp [worth, own, kind]

/-- A neighbour more earns from the tile, and the tile from it. -/
theorem worth_cons (t u : Tile) (around : List Tile) (p : PlayerId) :
    t.worth (u :: around) p = t.worth around p + (t.earns p u + u.earns p t) := by
  cases kind : t.kind with
  | empty => simp [worth, earns_of_isEmpty, earns_isEmpty, isEmpty_iff, kind]
  | greenery =>
    have nothing : t.earns p u = 0 := earns_eq_zero (by simp [kind])
    simp only [worth, kind, countP_cons_ite, nothing, earns_greenery kind]
    omega
  | ocean =>
    have nothing : t.earns p u = 0 := earns_eq_zero (by simp [kind])
    simp only [worth, kind, countP_cons_ite, nothing, earns_ocean kind]
    omega
  | city =>
    have earned : t.earns p u = if t.owner = some p then
        (if t.cityKind = some .capital ∧ u.kind = .ocean then 1 else 0) +
          if u.kind = .greenery then 1 else 0 else 0 := by
      simp only [earns, kind]
    simp only [worth, kind, earned, earns_city kind]
    by_cases owner : t.owner = some p
    · by_cases capital : t.cityKind = some .capital
      · simp only [owner, capital, if_true, true_and, countP_cons_ite]
        omega
      · simp only [owner, capital, if_true, if_false, false_and, countP_cons_ite]
        omega
    · simp only [owner, if_false, countP_cons_ite]
      omega
  | specialTile =>
    have earned : t.earns p u = if t.owner = some p then
        if t.specialTile = some .commercialDistrict ∧ u.kind = .city then 1 else 0 else 0 := by
      simp only [earns, kind]
    simp only [worth, kind, earned, earns_specialTile kind]
    by_cases owner : t.owner = some p
    · by_cases district : t.specialTile = some .commercialDistrict
      · simp only [owner, district, if_true, true_and, and_self, countP_cons_ite]
        omega
      · simp only [owner, district, if_true, if_false, false_and]
        omega
    · simp only [owner, if_false, and_false]
      omega

/-- What a tile is worth is what it earns and what is earned from it. -/
theorem worth_eq_total (t : Tile) (around : List Tile) (p : PlayerId) :
    t.worth around p = t.own p + total (around.map fun u => t.earns p u + u.earns p t) := by
  induction around with
  | nil => rw [worth_nil, List.map_nil, total_nil, Int.add_zero]
  | cons u around ih =>
    rw [worth_cons, ih, List.map_cons, total_cons]
    omega

end Tile

/-! ## Locations -/

namespace Location

variable {l m : Location}

/-- The locations next to a location. -/
def nearby (l : Location) : Finset Location := (l.neighbors.map .onMars).toFinset

theorem mem_nearby : m ∈ l.nearby ↔ ∃ h ∈ l.neighbors, .onMars h = m := by
  rw [nearby, List.mem_toFinset, List.mem_map]

theorem nodup_neighbors (l : Location) : l.neighbors.Nodup := by
  cases l with
  | offMars s => exact List.nodup_nil
  | onMars h =>
    refine List.Nodup.filter _ ?_
    simp [Hex.directions]

/-- No location is next to itself. -/
theorem not_mem_nearby_self (l : Location) : l ∉ l.nearby := by
  rw [mem_nearby]
  rintro ⟨h, near, rfl⟩
  exact (Hex.mem_neighbors.1 near).1.ne rfl

/-- Of two locations within bounds each is next to the other, or neither. -/
theorem near_comm (near : m ∈ l.nearby) (bounds : ∀ h, l = .onMars h → h.inBounds = true) :
    l ∈ m.nearby := by
  obtain ⟨b, hb, rfl⟩ := mem_nearby.1 near
  cases l with
  | offMars s => cases hb
  | onMars a =>
    have adjacent := (Hex.mem_neighbors.1 hb).1
    exact mem_nearby.2 ⟨a, Hex.mem_neighbors.2 ⟨adjacent.symm, bounds a rfl⟩, rfl⟩

end Location

/-! ## Views -/

/-- A list without doubles is added up as a set. -/
theorem total_map_eq_sum {α : Type} [DecidableEq α] {as : List α} (once : as.Nodup) (f : α → Int) :
    total (as.map f) = ∑ a ∈ as.toFinset, f a :=
  (List.sum_toFinset f once).symm

theorem total_perm {ns ms : List Int} (same : ns.Perm ms) : total ns = total ms :=
  same.sum_eq

namespace View

variable {v : View} {p : PlayerId} {l : Location} {t : Tile}

/-- What the tile at a location earns a player. -/
def earned (v : View) (p : PlayerId) (l : Location) : Int :=
  (v.tile l).own p + ∑ m ∈ l.nearby, (v.tile l).earns p (v.tile m)

/-- What all tiles earn a player. -/
def score (v : View) (p : PlayerId) : Int := ∑ l ∈ v.locations.toFinset, v.earned p l

/-- What is added up over the neighbours is added up over the locations nearby. -/
theorem total_around (v : View) (f : Tile → Int) (l : Location) :
    total ((v.around l).map f) = ∑ m ∈ l.nearby, f (v.tile m) := by
  have once : (l.neighbors.map Location.onMars).Nodup :=
    l.nodup_neighbors.map fun _ _ same => Location.onMars.inj same
  have listed : (v.around l).map f = (l.neighbors.map Location.onMars).map fun m => f (v.tile m) := by
    rw [around, List.map_map, List.map_map]
    rfl
  rw [listed, total_map_eq_sum once, Location.nearby]

/-! ### One tile more -/

theorem tile_put (v : View) (l m : Location) (t : Tile) :
    (v.put l t).tile m = if m = l then t else v.tile m := rfl

/-- At the location of a new tile it earns what it can, -/
theorem earned_put_self (empty : (v.tile l).isEmpty = true) (t : Tile) :
    (v.put l t).earned p l =
      v.earned p l + (t.own p + ∑ m ∈ l.nearby, t.earns p (v.tile m)) := by
  have nothing : v.earned p l = 0 := by
    simp only [earned, Tile.own_of_isEmpty empty, Tile.earns_of_isEmpty empty, sum_const_zero,
      Int.add_zero]
  have around : ∀ m ∈ l.nearby, t.earns p ((v.put l t).tile m) = t.earns p (v.tile m) := by
    intro m hm
    have other : m ≠ l := fun same => l.not_mem_nearby_self (same ▸ hm)
    rw [tile_put, if_neg other]
  rw [nothing, Int.zero_add, earned, tile_put, if_pos rfl, sum_congr rfl around]

/-- and at any other the tile there earns something more if it is next to it. -/
theorem earned_put_of_ne {m : Location} (other : m ≠ l) (empty : (v.tile l).isEmpty = true)
    (t : Tile) :
    (v.put l t).earned p m =
      v.earned p m + if l ∈ m.nearby then (v.tile m).earns p t else 0 := by
  have around : ∀ k ∈ m.nearby, (v.tile m).earns p ((v.put l t).tile k) =
      (v.tile m).earns p (v.tile k) + if k = l then (v.tile m).earns p t else 0 := by
    intro k _
    rw [tile_put]
    by_cases here : k = l
    · subst here
      rw [if_pos rfl, if_pos rfl, Tile.earns_isEmpty empty, Int.zero_add]
    · rw [if_neg here, if_neg here, Int.add_zero]
  rw [earned, tile_put, if_neg other, sum_congr rfl around, sum_add_distrib, sum_ite_eq', earned,
    Int.add_assoc]

/-- The tiles next to a location are those that have it next to them, apart from the empty locations
beyond the board. -/
theorem sum_near (bounded : ∀ h, .onMars h ∈ v.locations → h.inBounds = true)
    (beyond : ∀ m, m ∉ v.locations → (v.tile m).isEmpty = true) (here : l ∈ v.locations) (t : Tile) :
    (∑ m ∈ v.locations.toFinset, if l ∈ m.nearby then (v.tile m).earns p t else 0) =
      ∑ m ∈ l.nearby, (v.tile m).earns p t := by
  rw [← sum_filter]
  refine sum_subset ?_ ?_
  · intro m hm
    obtain ⟨there, near⟩ := mem_filter.1 hm
    refine Location.near_comm near fun h hex => bounded h ?_
    rw [← hex]
    exact List.mem_toFinset.1 there
  · intro m near absent
    have near' : l ∈ m.nearby := Location.near_comm near fun h hex => bounded h (hex ▸ here)
    refine Tile.earns_of_isEmpty (beyond m fun there => absent ?_)
    exact mem_filter.2 ⟨List.mem_toFinset.2 there, near'⟩

/-- **A tile more** is worth what it earns and what is earned from it. -/
theorem score_put (bounded : ∀ h, .onMars h ∈ v.locations → h.inBounds = true)
    (beyond : ∀ m, m ∉ v.locations → (v.tile m).isEmpty = true) (here : l ∈ v.locations)
    (empty : (v.tile l).isEmpty = true) (t : Tile) :
    (v.put l t).score p = v.score p + t.worth (v.around l) p := by
  have each : ∀ m ∈ v.locations.toFinset, (v.put l t).earned p m =
      v.earned p m + ((if m = l then t.own p + ∑ k ∈ l.nearby, t.earns p (v.tile k) else 0) +
        if l ∈ m.nearby then (v.tile m).earns p t else 0) := by
    intro m _
    by_cases same : m = l
    · subst same
      rw [earned_put_self empty, if_pos rfl, if_neg m.not_mem_nearby_self, Int.add_zero]
    · rw [earned_put_of_ne same empty, if_neg same, Int.zero_add]
  calc (v.put l t).score p
      = ∑ m ∈ v.locations.toFinset, (v.put l t).earned p m := rfl
    _ = v.score p + ((t.own p + ∑ m ∈ l.nearby, t.earns p (v.tile m)) +
          ∑ m ∈ l.nearby, (v.tile m).earns p t) := by
        rw [sum_congr rfl each, sum_add_distrib, sum_add_distrib, sum_ite_eq',
          if_pos (List.mem_toFinset.2 here), sum_near bounded beyond here, score]
    _ = v.score p + t.worth (v.around l) p := by
        rw [Tile.worth_eq_total, total_around, sum_add_distrib, Int.add_assoc]

/-! ### Sums over some locations -/

theorem total_filter_eq_sum {α : Type} [DecidableEq α] {as : List α} (once : as.Nodup)
    (P : α → Bool) (f : α → Int) :
    total ((as.filter P).map f) = ∑ a ∈ as.toFinset, if P a = true then f a else 0 := by
  rw [total_map_eq_sum (once.filter P), List.toFinset_filter, sum_filter]

/-- What no location off Mars adds to is added up over the hexes. -/
theorem sum_hexes (v : View) {f : Location → Int} (remote : ∀ s, f (.offMars s) = 0) :
    ∑ h ∈ v.hexes.toFinset, f (.onMars h) = ∑ l ∈ v.locations.toFinset, f l := by
  have injective : Function.Injective Location.onMars := fun _ _ => Location.onMars.inj
  have listed : ∑ h ∈ v.hexes.toFinset, f (.onMars h) =
      ∑ l ∈ v.hexes.toFinset.map ⟨Location.onMars, injective⟩, f l :=
    (sum_map v.hexes.toFinset ⟨Location.onMars, injective⟩ f).symm
  rw [listed]
  refine sum_subset ?_ ?_
  · intro l hl
    obtain ⟨h, hh, rfl⟩ := mem_map.1 hl
    exact List.mem_toFinset.2 (Board.mem_hexes.1 (List.mem_toFinset.1 hh))
  · intro l hl absent
    cases l with
    | offMars s => exact remote s
    | onMars h =>
      refine absurd (mem_map.2 ⟨h, ?_, rfl⟩) absent
      exact List.mem_toFinset.2 (Board.mem_hexes.2 (List.mem_toFinset.1 hl))

/-- Neighbours of one kind, location by location. -/
theorem adjacent_eq_sum (v : View) (kind : TileKind) (l : Location) :
    (v.adjacent kind l : Int) = ∑ m ∈ l.nearby, if (v.tile m).kind = kind then 1 else 0 := by
  rw [← v.total_around (fun u => if u.kind = kind then 1 else 0), adjacent]
  induction v.around l with
  | nil => rfl
  | cons u us ih =>
    rw [Tile.countP_cons_ite (fun u => u.kind = kind), ih, List.map_cons, total_cons, Int.add_comm]

end View

/-! ## Boards -/

namespace Board

variable {b b' : Board} {l : Location} {t : Tile}

/-- The spaces on Mars are within bounds. -/
def Bounded (b : Board) : Prop := ∀ h, b.spaces.contains (.onMars h) = true → h.inBounds = true

/-- Off Mars there are only cities. -/
theorem kind_offMars (b : Board) (s : Site) :
    (b.status (.offMars s)).kind = .city ∨ (b.status (.offMars s)).kind = .empty := by
  have held := b.shown_status (.offMars s)
  generalize b.status (.offMars s) = t at held ⊢
  cases held with
  | city => exact .inl rfl
  | empty => exact .inr rfl

/-- A greenery that shows is that of its owner. -/
theorem status_eq_greenery {p : PlayerId} :
    b.status l = .greenery p ↔ (b.status l).kind = .greenery ∧ (b.status l).owner = some p := by
  constructor
  · intro shows
    rw [shows]
    exact ⟨rfl, rfl⟩
  · rintro ⟨kind, owner⟩
    have held := b.shown_status l
    generalize b.status l = t at held kind owner ⊢
    cases held with
    | greenery =>
      cases owner
      rfl
    | city | ocean | specialTile | empty => cases kind

/-- What a player scores for the tiles of a kind that are theirs, all tiles of that kind earn them: those
of others earn them nothing. -/
theorem ite_owned {kind : TileKind} {p : PlayerId} {points : Int}
    (scored : (b.status l).kind = kind → (b.status l).owner = some p →
      points = ∑ m ∈ l.nearby, (b.status l).earns p (b.status m)) :
    (if (decide ((b.status l).kind = kind) && decide ((b.status l).owner = some p)) = true then points
      else 0) =
      if (b.status l).kind = kind then ∑ m ∈ l.nearby, (b.status l).earns p (b.status m) else 0 := by
  by_cases same : (b.status l).kind = kind
  · by_cases owner : (b.status l).owner = some p
    · rw [if_pos same, if_pos (by simp [same, owner])]
      exact scored same owner
    · have nothing : ∀ m ∈ l.nearby, (b.status l).earns p (b.status m) = 0 := fun _ _ => if_neg owner
      rw [if_pos same, if_neg (by simp [owner]), sum_eq_zero nothing]
  · rw [if_neg same, if_neg (by simp [same])]

namespace Consistent

variable (consistent : b.Consistent) (owned : b.Owned)
include consistent

theorem length_greeneriesOf (p : PlayerId) :
    ((b.greeneriesOf p).length : Int) = ∑ l ∈ b.view.locations.toFinset, (b.status l).own p := by
  have remote : ∀ s, (b.status (.offMars s)).own p = 0 := by
    intro s
    obtain kind | kind := b.kind_offMars s <;> simp [Tile.own, kind]
  have ones : ((b.view.greeneriesOf p).length : Int) =
      total ((b.view.greeneriesOf p).map fun _ => 1) := by
    induction b.view.greeneriesOf p with
    | nil => rfl
    | cons h hs ih => rw [List.map_cons, total_cons, ← ih, List.length_cons]; omega
  rw [(consistent.greeneriesOf_view p).length_eq, ones, View.greeneriesOf,
    View.total_filter_eq_sum (nodup_hexes b.view), ← b.view.sum_hexes remote]
  refine sum_congr rfl fun h _ => ?_
  have shows : b.view.tile (.onMars h) = .greenery p ↔ _ := b.status_eq_greenery
  simp only [decide_eq_true_eq, shows, Tile.own]

include owned

/-- What a city scores it earns from its neighbours. -/
theorem cityPoints_eq_sum {p : PlayerId} (kind : (b.status l).kind = .city)
    (owner : (b.status l).owner = some p) :
    Player.cityPoints b l (b.status l).cityKind =
      ∑ m ∈ l.nearby, (b.status l).earns p (b.status m) := by
  obtain ⟨-, -, -, -, -, oceans, -, greeneries, -, -, -⟩ := consistent.readsAs owned
  have earned : ∀ u : Tile, (b.status l).earns p u =
      (if (b.status l).cityKind = some .capital ∧ u.kind = .ocean then 1 else 0) +
        if u.kind = .greenery then 1 else 0 := by
    intro u
    simp only [Tile.earns, kind, owner, if_true]
  simp only [earned, sum_add_distrib]
  rw [Player.cityPoints, oceans, greeneries, b.view.adjacent_eq_sum .greenery]
  by_cases capital : (b.status l).cityKind = some .capital
  · simp only [capital, if_true, true_and]
    rw [b.view.adjacent_eq_sum .ocean]
    rfl
  · simp only [capital, if_false, false_and, sum_const_zero]
    rfl

/-- So does a special tile. -/
theorem specialTilePoints_eq_sum {p : PlayerId} {h : Hex}
    (kind : (b.status (.onMars h)).kind = .specialTile)
    (owner : (b.status (.onMars h)).owner = some p) :
    Player.specialTilePoints b h (b.status (.onMars h)).specialTile =
      ∑ m ∈ (Location.onMars h).nearby, (b.status (.onMars h)).earns p (b.status m) := by
  obtain ⟨-, -, -, -, -, -, cities, -, -, -, -⟩ := consistent.readsAs owned
  have earned : ∀ u : Tile, (b.status (.onMars h)).earns p u =
      if (b.status (.onMars h)).specialTile = some .commercialDistrict ∧ u.kind = .city then 1
        else 0 := by
    intro u
    simp only [Tile.earns, kind, owner, if_true]
  simp only [earned]
  rw [Player.specialTilePoints, cities]
  by_cases district : (b.status (.onMars h)).specialTile = some .commercialDistrict
  · simp only [district, if_true, true_and]
    exact b.view.adjacent_eq_sum .city _
  · simp only [district, if_false, false_and, sum_const_zero]

/-- What the cities of a player score. -/
theorem total_citiesOf (p : PlayerId) :
    total ((b.citiesOf p).map fun c => Player.cityPoints b c.1 c.2) =
      ∑ l ∈ b.view.locations.toFinset,
        if (b.status l).kind = .city then
          ∑ m ∈ l.nearby, (b.status l).earns p (b.status m) else 0 := by
  rw [total_perm ((consistent.citiesOf_view p).map _), View.citiesOf, List.map_map,
    View.total_filter_eq_sum (nodup_locations b.view)]
  exact sum_congr rfl fun l _ => ite_owned (consistent.cityPoints_eq_sum owned)

/-- What the special tiles of a player score. -/
theorem total_specialTilesOf (p : PlayerId) :
    total ((b.specialTilesOf p).map fun c => Player.specialTilePoints b c.1 c.2) =
      ∑ l ∈ b.view.locations.toFinset,
        if (b.status l).kind = .specialTile then
          ∑ m ∈ l.nearby, (b.status l).earns p (b.status m) else 0 := by
  have remote : ∀ s, (if (b.status (.offMars s)).kind = .specialTile then
      ∑ m ∈ (Location.offMars s).nearby, (b.status (.offMars s)).earns p (b.status m)
        else 0) = 0 := by
    intro s
    obtain kind | kind := b.kind_offMars s <;> simp [kind]
  rw [total_perm ((consistent.specialTilesOf_view p).map _), View.specialTilesOf, List.map_map,
    View.total_filter_eq_sum (nodup_hexes b.view), ← b.view.sum_hexes remote]
  exact sum_congr rfl fun h _ => ite_owned (consistent.specialTilePoints_eq_sum owned)

/-- **The points of a player**, location by location. -/
theorem tilePoints_eq_score (q : Player) : q.tilePoints b = b.view.score q.id := by
  rw [Player.tilePoints, consistent.length_greeneriesOf, consistent.total_citiesOf owned,
    consistent.total_specialTilesOf owned, ← sum_add_distrib, ← sum_add_distrib]
  refine sum_congr rfl fun l _ => ?_
  show _ = (b.status l).own q.id + ∑ m ∈ l.nearby, (b.status l).earns q.id (b.status m)
  cases kind : (b.status l).kind with
  | city => simp
  | specialTile => simp
  | empty | ocean | greenery =>
    have nothing : ∀ m, (b.status l).earns q.id (b.status m) = 0 :=
      fun m => Tile.earns_eq_zero (by simp [kind])
    simp [nothing]

end Consistent

/-! ### A tile more -/

/-- No location is occupied twice, every occupied location is a space, and spaces on Mars are within
bounds; there are no more oceans than there can be, and every greenery has an owner. -/
structure Orderly (b : Board) : Prop where
  exclusive : b.occupied.Nodup
  onBoard : ∀ l ∈ b.occupied, b.spaces.contains l = true
  oceans : b.oceanCount ≤ maxOceans
  owned : b.Owned
  bounded : b.Bounded

theorem Consistent.orderly (consistent : b.Consistent) (owned : b.Owned) (bounded : b.Bounded) :
    b.Orderly :=
  ⟨consistent.exclusive, consistent.onBoard, consistent.oceans, owned, bounded⟩

/-- A tile that is put down shows as what it is. -/
theorem status_place_shown (shows : t.Shows) (hp : b.place l t = .ok b') : b'.status l = t.shown := by
  obtain ⟨-, empty, ⟨city, rfl⟩ | ⟨h, rfl, -, covered⟩⟩ := place_eq_ok.1 hp
  · have kind : t.kind = .city := of_decide_eq_true city
    simp [status, Tile.shown, kind]
  · have city := city_of_status_isEmpty empty
    obtain ⟨ocean, greenery, -⟩ := hex_of_status_isEmpty empty
    obtain ⟨kind, -, rfl⟩ | ⟨kind, rfl⟩ | ⟨kind, rfl⟩ := cover_eq_ok.1 covered
    · simp [status, city, KeySet.add, Table.contains, Tile.shown, kind]
    · obtain ⟨p, owner⟩ := Option.isSome_iff_exists.1 (shows kind)
      simp [status, city, ocean, Table.getD, Tile.shown, Tile.greenery, kind, owner]
    · simp [status, city, ocean, greenery, Tile.shown, kind]

/-- The map changes at the location of the tile alone. -/
theorem view_place (shows : t.Shows) (hp : b.place l t = .ok b') :
    b'.view = b.view.put l t.shown := by
  rw [View.put, view, (place_frame hp).1]
  congr 1
  funext m
  split
  next same =>
    subst same
    exact status_place_shown shows hp
  next other => exact status_place_of_ne other hp

namespace Orderly

variable (orderly : b.Orderly)
include orderly

theorem place (shows : t.Shows) (hp : b.place l t = .ok b') : b'.Orderly := by
  refine ⟨nodup_occupied_place orderly.exclusive orderly.owned hp,
    onBoard_place orderly.onBoard orderly.owned hp, oceanCount_place orderly.oceans hp,
    orderly.owned.place shows hp, ?_⟩
  intro h space
  rw [(place_frame hp).1] at space
  exact orderly.bounded h space

/-- Neither oxygen nor temperature matters to what tiles score. -/
theorem tilePoints_eq_score (q : Player) : q.tilePoints b = b.view.score q.id := by
  have low : (0 : Int) ≤ 0 ∧ (0 : Int) ≤ maxOxygen := by decide
  have cold : minTemperature ≤ minTemperature ∧ minTemperature ≤ maxTemperature := by decide
  have reset : { b with oxygen := 0, temperature := minTemperature }.Consistent :=
    ⟨orderly.exclusive, orderly.onBoard, orderly.oceans, low, cold⟩
  exact reset.tilePoints_eq_score orderly.owned q

/-- A location that is no space shows as empty. -/
theorem isEmpty_of_beyond (beyond : l ∉ b.view.locations) : (b.status l).isEmpty = true := by
  have absent : l ∉ b.occupied :=
    fun held => beyond (Table.contains_iff.1 (orderly.onBoard l held))
  rw [mem_occupied, not_or] at absent
  obtain ⟨city, hex⟩ := absent
  have held := b.shown_status l
  generalize b.status l = t at held ⊢
  cases held with
  | city held => exact absurd (by simp [Table.contains, held]) city
  | ocean held => exact absurd ⟨_, rfl, .inl held⟩ hex
  | greenery held => exact absurd ⟨_, rfl, .inr (.inl (by simp [Table.contains, held]))⟩ hex
  | specialTile held => exact absurd ⟨_, rfl, .inr (.inr (by simp [Table.contains, held]))⟩ hex
  | empty => rfl

/-- **A tile that is put down** changes the points of a player by what it is worth to them there. -/
theorem tilePoints_place (shows : t.Shows) (hp : b.place l t = .ok b') (q : Player) :
    q.tilePoints b' = q.tilePoints b + t.worth (b.neighborStatus l) q.id := by
  obtain ⟨space, empty, -⟩ := place_eq_ok.1 hp
  have bounded : ∀ h, .onMars h ∈ b.view.locations → h.inBounds = true :=
    fun h there => orderly.bounded h (Table.contains_iff.2 there)
  rw [(orderly.place shows hp).tilePoints_eq_score, orderly.tilePoints_eq_score, view_place shows hp,
    View.score_put bounded (fun m => orderly.isEmpty_of_beyond) (Table.contains_iff.1 space) empty,
    Tile.worth_shown]
  rfl

end Orderly

end Board

end Terraforming
