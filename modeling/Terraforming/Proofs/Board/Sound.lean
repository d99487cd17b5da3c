import Mathlib.Algebra.Group.Even
import Mathlib.Algebra.Group.Int.Even
import Terraforming.Proofs.Data.Table
import Terraforming.Proofs.Game.Commands

/-!
# Sound boards

A board is sound when each location holds one tile at most, tiles lie on spaces, and the global
parameters are within their ranges.  What a location holds is shown by `Board.status`, and that is
all that `Board.place` looks at before it puts a tile down.

* `not_mem_occupied` — a space that shows as empty is in no index, if every greenery has an owner;
* `occupied_place` — so placing a tile adds one location to those that were occupied;
* `Sound.place`, `Sound.raiseTemperature`, `Sound.raiseOxygen` — every change of the board keeps it
  sound.
-/

namespace Terraforming

/-- A tile that shows once it lies there: a greenery has an owner. -/
def Tile.Shows (t : Tile) : Prop := t.kind = .greenery → t.owner.isSome = true

namespace Board

variable {b b' : Board} {l : Location} {t : Tile}

/-- Every location holds one tile at most and is a space, and the parameters are within range. -/
structure Sound (b : Board) : Prop where
  exclusive : b.occupied.Nodup
  onBoard : ∀ l ∈ b.occupied, b.spaces.contains l = true
  oceans : b.oceanCount ≤ maxOceans
  oxygen : 0 ≤ b.oxygen ∧ b.oxygen ≤ maxOxygen
  temperature : minTemperature ≤ b.temperature ∧ b.temperature ≤ maxTemperature
  evenTemperature : Even b.temperature

/-- Every greenery has an owner. -/
def Owned (b : Board) : Prop := ∀ h o, b.greeneries.get? h = some o → o.isSome = true

/-! ## What is occupied -/

theorem mem_occupied :
    l ∈ b.occupied ↔ b.cities.contains l = true ∨ ∃ h, l = .onMars h ∧
      (b.oceans.contains h = true ∨ b.greeneries.contains h = true ∨
        b.specialTiles.contains h = true) := by
  simp only [occupied, List.mem_append, List.mem_map, Table.contains_iff]
  constructor
  · rintro (((hc | ⟨h, hh, rfl⟩) | ⟨h, hh, rfl⟩) | ⟨h, hh, rfl⟩)
    · exact .inl hc
    · exact .inr ⟨h, rfl, .inl hh⟩
    · exact .inr ⟨h, rfl, .inr (.inl hh)⟩
    · exact .inr ⟨h, rfl, .inr (.inr hh)⟩
  · rintro (hc | ⟨h, rfl, hh | hh | hh⟩)
    · exact .inl (.inl (.inl hc))
    · exact .inl (.inl (.inr ⟨h, hh, rfl⟩))
    · exact .inl (.inr ⟨h, hh, rfl⟩)
    · exact .inr ⟨h, hh, rfl⟩

theorem city_of_status_isEmpty (empty : (b.status l).isEmpty = true) :
    b.cities.get? l = none := by
  cases hc : b.cities.get? l with
  | none => rfl
  | some c => simp [status, hc, Tile.isEmpty] at empty

/-- A hex that shows as empty holds nothing, save a greenery that nobody owns. -/
theorem hex_of_status_isEmpty {h : Hex} (empty : (b.status (.onMars h)).isEmpty = true) :
    b.oceans.contains h = false ∧ b.greeneries.getD h none = none ∧
      b.specialTiles.get? h = none := by
  rw [status, city_of_status_isEmpty empty] at empty
  cases ho : b.oceans.contains h with
  | true => simp [ho, Tile.isEmpty, Tile.ocean] at empty
  | false =>
    cases hg : b.greeneries.getD h none with
    | some p => simp [ho, hg, Tile.isEmpty, Tile.greenery] at empty
    | none =>
      cases hs : b.specialTiles.get? h with
      | some s => simp [ho, hg, hs, Tile.isEmpty] at empty
      | none => exact ⟨rfl, rfl, rfl⟩

theorem Owned.get?_eq_none {h : Hex} (owned : b.Owned) (hg : b.greeneries.getD h none = none) :
    b.greeneries.get? h = none := by
  cases ho : b.greeneries.get? h with
  | none => rfl
  | some o =>
    have unowned : o = none := by simpa [Table.getD, ho] using hg
    have := owned h o ho
    simp [unowned] at this

/-- Where every greenery has an owner, a location that shows as empty is in no index. -/
theorem not_mem_occupied (owned : b.Owned) (empty : (b.status l).isEmpty = true) :
    l ∉ b.occupied := by
  rw [mem_occupied]
  rintro (hc | ⟨h, rfl, ho | hg | hs⟩)
  · simp [Table.contains, city_of_status_isEmpty empty] at hc
  · simp [(hex_of_status_isEmpty empty).1] at ho
  · have := owned.get?_eq_none (hex_of_status_isEmpty empty).2.1
    simp [Table.contains, this] at hg
  · simp [Table.contains, (hex_of_status_isEmpty empty).2.2] at hs

/-! ## Placing -/

theorem occupied_cover {h : Hex} (owned : b.Owned) (empty : (b.status (.onMars h)).isEmpty = true)
    (hp : b.cover h t = .ok b') : b'.occupied.Perm (.onMars h :: b.occupied) := by
  obtain ⟨ocean, unowned, special⟩ := hex_of_status_isEmpty empty
  have greenery := owned.get?_eq_none unowned
  rw [Table.contains_eq_false_iff] at ocean
  obtain ⟨-, -, rfl⟩ | ⟨-, rfl⟩ | ⟨-, rfl⟩ := cover_eq_ok.1 hp
  · have keys : ((b.oceans.add h).keys.map Location.onMars).Perm
        (.onMars h :: b.oceans.keys.map .onMars) := (Table.keys_insert_perm ocean).map _
    refine (((keys.append_left _).append_right _).append_right _).trans ?_
    simp only [occupied, List.append_assoc, List.cons_append]
    exact List.perm_middle
  · have keys : ((b.greeneries.insert h t.owner).keys.map Location.onMars).Perm
        (.onMars h :: b.greeneries.keys.map .onMars) := (Table.keys_insert_perm greenery).map _
    refine ((keys.append_left _).append_right _).trans ?_
    simp only [occupied, List.append_assoc, List.cons_append]
    rw [← List.append_assoc, ← List.append_assoc b.cities.keys]
    exact List.perm_middle
  · have keys : ((b.specialTiles.insert h (t.specialTile, t.owner)).keys.map Location.onMars).Perm
        (.onMars h :: b.specialTiles.keys.map .onMars) := (Table.keys_insert_perm special).map _
    exact (keys.append_left _).trans List.perm_middle

/-- Placing a tile adds its location to those that are occupied. -/
theorem occupied_place (owned : b.Owned) (hp : b.place l t = .ok b') :
    b'.occupied.Perm (l :: b.occupied) := by
  obtain ⟨-, empty, ⟨-, rfl⟩ | ⟨h, rfl, -, hc⟩⟩ := place_eq_ok.1 hp
  · have keys : (b.cities.insert l (t.cityKind, t.owner)).keys.Perm (l :: b.cities.keys) :=
      Table.keys_insert_perm (city_of_status_isEmpty empty)
    exact ((keys.append_right _).append_right _).append_right _
  · exact occupied_cover owned empty hc

/-- What placing a tile leaves alone. -/
theorem place_frame (hp : b.place l t = .ok b') :
    b'.spaces = b.spaces ∧ b'.oxygen = b.oxygen ∧ b'.temperature = b.temperature := by
  obtain ⟨-, -, ⟨-, rfl⟩ | ⟨h, rfl, -, hc⟩⟩ := place_eq_ok.1 hp
  · exact ⟨rfl, rfl, rfl⟩
  · obtain ⟨-, -, rfl⟩ | ⟨-, rfl⟩ | ⟨-, rfl⟩ := cover_eq_ok.1 hc
    · exact ⟨rfl, rfl, rfl⟩
    · exact ⟨rfl, rfl, rfl⟩
    · exact ⟨rfl, rfl, rfl⟩

theorem oceanCount_place (oceans : b.oceanCount ≤ maxOceans) (hp : b.place l t = .ok b') :
    b'.oceanCount ≤ maxOceans := by
  obtain ⟨-, empty, ⟨-, rfl⟩ | ⟨h, rfl, -, hc⟩⟩ := place_eq_ok.1 hp
  · exact oceans
  · obtain ⟨-, left, rfl⟩ | ⟨-, rfl⟩ | ⟨-, rfl⟩ := cover_eq_ok.1 hc
    · have absent := Table.contains_eq_false_iff.1 (hex_of_status_isEmpty empty).1
      have one : (b.oceans.add h).keys.length = b.oceans.keys.length + 1 :=
        (Table.keys_insert_perm absent).length_eq
      have below : b.oceanCount < maxOceans := Nat.not_le.1 (of_decide_eq_false left)
      simp only [Table.keys, List.length_map] at one
      simp only [oceanCount, Table.size] at below ⊢
      omega
    · exact oceans
    · exact oceans

theorem Owned.place (owned : b.Owned) (shows : t.Shows) (hp : b.place l t = .ok b') :
    b'.Owned := by
  obtain ⟨-, -, ⟨-, rfl⟩ | ⟨h, rfl, -, hc⟩⟩ := place_eq_ok.1 hp
  · exact owned
  · obtain ⟨-, -, rfl⟩ | ⟨kind, rfl⟩ | ⟨-, rfl⟩ := cover_eq_ok.1 hc
    · exact owned
    · exact Table.forall_insert owned (shows kind)
    · exact owned

/-- So no location is occupied twice, -/
theorem nodup_occupied_place (exclusive : b.occupied.Nodup) (owned : b.Owned)
    (hp : b.place l t = .ok b') : b'.occupied.Nodup := by
  obtain ⟨-, empty, -⟩ := place_eq_ok.1 hp
  rw [(occupied_place owned hp).nodup_iff, List.nodup_cons]
  exact ⟨not_mem_occupied owned empty, exclusive⟩

/-- and every occupied location is a space. -/
theorem onBoard_place (onBoard : ∀ l ∈ b.occupied, b.spaces.contains l = true) (owned : b.Owned)
    (hp : b.place l t = .ok b') : ∀ l ∈ b'.occupied, b'.spaces.contains l = true := by
  obtain ⟨space, -⟩ := place_eq_ok.1 hp
  intro l' hl'
  rw [(place_frame hp).1]
  rcases List.mem_cons.1 ((occupied_place owned hp).mem_iff.1 hl') with rfl | hl'
  · exact space
  · exact onBoard l' hl'

/-- A tile that is put down leaves the board sound. -/
theorem Sound.place (sound : b.Sound) (owned : b.Owned) (hp : b.place l t = .ok b') :
    b'.Sound := by
  obtain ⟨-, oxygen, temperature⟩ := place_frame hp
  exact ⟨nodup_occupied_place sound.exclusive owned hp, onBoard_place sound.onBoard owned hp,
    oceanCount_place sound.oceans hp, oxygen ▸ sound.oxygen, temperature ▸ sound.temperature,
    temperature ▸ sound.evenTemperature⟩

/-! ## Raising -/

theorem Sound.raiseTemperature (sound : b.Sound) (hr : b.raiseTemperature = .ok b') :
    b'.Sound := by
  obtain ⟨below, rfl⟩ := raiseTemperature_eq_ok.1 hr
  obtain ⟨low, -⟩ := sound.temperature
  obtain ⟨n, hn⟩ := sound.evenTemperature
  have below : b.temperature < maxTemperature := by simpa [temperatureMaxed] using below
  simp only [minTemperature, maxTemperature] at low below
  refine ⟨sound.exclusive, sound.onBoard, sound.oceans, sound.oxygen, ⟨?_, ?_⟩, n + 1, ?_⟩
  · simp only [minTemperature, temperatureStep]
    omega
  · simp only [maxTemperature, temperatureStep]
    omega
  · simp only [temperatureStep]
    omega

theorem Sound.raiseOxygen (sound : b.Sound) (hr : b.raiseOxygen = .ok b') : b'.Sound := by
  obtain ⟨below, rfl⟩ := raiseOxygen_eq_ok.1 hr
  obtain ⟨low, -⟩ := sound.oxygen
  have below : b.oxygen < maxOxygen := by simpa [oxygenMaxed] using below
  refine ⟨sound.exclusive, sound.onBoard, sound.oceans, ⟨?_, ?_⟩, sound.temperature,
    sound.evenTemperature⟩
  · show 0 ≤ b.oxygen + 1
    omega
  · show b.oxygen + 1 ≤ maxOxygen
    omega

end Board

end Terraforming
