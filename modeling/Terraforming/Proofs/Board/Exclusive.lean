import Terraforming.Proofs.Board.Sound

/-!
# Exclusive indexes

A board is accepted by its constructor when no location is in two of its indexes, every occupied
location is a space, and the global parameters are within their ranges.  On such a board the order in
which `Board.status` asks the indexes does not matter: whatever an index holds is what shows, and
whatever shows is held by the index of its kind.

* `conflict?_eq_none_iff`, `Contents.toBoard_eq_ok` — which boards are accepted;
* `Consistent.place` — a tile that is put down leaves an accepted board, whatever tile it is;
* `Consistent.ocean_iff`, `city_iff`, `Consistent.greenery_iff`, `Consistent.specialTile_iff` — an
  index holds an entry exactly when the entry shows.
-/

namespace Terraforming.Board

variable {b b' : Board} {l : Location} {h : Hex} {t : Tile}

/-- No location is occupied twice, every occupied location is a space, and the parameters are within
range. -/
structure Consistent (b : Board) : Prop where
  exclusive : b.occupied.Nodup
  onBoard : ∀ l ∈ b.occupied, b.spaces.contains l = true
  oceans : b.oceanCount ≤ maxOceans
  oxygen : 0 ≤ b.oxygen ∧ b.oxygen ≤ maxOxygen
  temperature : minTemperature ≤ b.temperature ∧ b.temperature ≤ maxTemperature

theorem Sound.consistent (sound : b.Sound) : b.Consistent :=
  ⟨sound.exclusive, sound.onBoard, sound.oceans, sound.oxygen, sound.temperature⟩

/-! ## What the constructor accepts -/

/-- Nothing in a list is misplaced exactly when the list names spaces, each of them once, and none
that has been named before. -/
theorem misplaced?_eq_none_iff {spaces : Table Location Space} {seen ls : List Location} :
    misplaced? spaces seen ls = none ↔
      ls.Nodup ∧ (∀ l ∈ ls, l ∉ seen) ∧ ∀ l ∈ ls, spaces.contains l = true := by
  induction ls generalizing seen with
  | nil => simp [misplaced?]
  | cons l ls ih =>
    rw [misplaced?]
    by_cases named : l ∈ seen
    · rw [if_pos named]
      exact iff_of_false nofun fun ⟨_, new, _⟩ => new l List.mem_cons_self named
    · rw [if_neg named]
      by_cases space : spaces.contains l = true
      · rw [if_pos space, ih, List.nodup_cons]
        constructor
        · rintro ⟨distinct, new, spaces⟩
          refine ⟨⟨fun twice => new l twice List.mem_cons_self, distinct⟩, ?_,
            List.forall_mem_cons.2 ⟨space, spaces⟩⟩
          exact List.forall_mem_cons.2
            ⟨named, fun l' hl' before => new l' hl' (List.mem_cons_of_mem _ before)⟩
        · rintro ⟨⟨once, distinct⟩, new, spaces⟩
          refine ⟨distinct, fun l' hl' before => ?_, (List.forall_mem_cons.1 spaces).2⟩
          rcases List.mem_cons.1 before with rfl | before
          · exact once hl'
          · exact new l' (List.mem_cons_of_mem _ hl') before
      · rw [if_neg space]
        exact iff_of_false nofun fun ⟨_, _, spaces⟩ => space (spaces l List.mem_cons_self)

theorem outOfRange?_eq_none_iff :
    b.outOfRange? = none ↔ b.oceanCount ≤ maxOceans ∧ (0 ≤ b.oxygen ∧ b.oxygen ≤ maxOxygen) ∧
      minTemperature ≤ b.temperature ∧ b.temperature ≤ maxTemperature := by
  unfold outOfRange?
  split
  next many =>
    have excess : maxOceans < b.oceanCount := many
    exact iff_of_false nofun fun ⟨few, _⟩ => Nat.not_le.2 excess few
  next few =>
    have few : b.oceanCount ≤ maxOceans := Nat.not_lt.1 few
    split
    next oxygen => exact iff_of_false nofun fun ⟨_, within, _⟩ => oxygen within
    next oxygen =>
      split
      next temperature => exact iff_of_false nofun fun ⟨_, _, within⟩ => temperature within
      next temperature =>
        exact iff_of_true rfl ⟨few, Decidable.not_not.1 oxygen, Decidable.not_not.1 temperature⟩

/-- Nothing is wrong with a board exactly when it is consistent. -/
theorem conflict?_eq_none_iff : b.conflict? = none ↔ b.Consistent := by
  rw [conflict?, Option.orElse_eq_orElse, Option.orElse_eq_or, Option.or_eq_none_iff,
    misplaced?_eq_none_iff, outOfRange?_eq_none_iff]
  constructor
  · rintro ⟨⟨exclusive, -, onBoard⟩, oceans, oxygen, temperature⟩
    exact ⟨exclusive, onBoard, oceans, oxygen, temperature⟩
  · rintro ⟨exclusive, onBoard, oceans, oxygen, temperature⟩
    exact ⟨⟨exclusive, fun _ _ => List.not_mem_nil, onBoard⟩, oceans, oxygen, temperature⟩

/-- A list of entries names the keys of its table, in an order of its own. -/
theorem keys_ofList_perm {κ ν : Type} [Ord κ] [Std.TransOrd κ] [Std.LawfulEqOrd κ] [DecidableEq κ]
    (es : List (κ × ν)) : (Ledger.ofList es).keys.Perm (Table.ofList es).keys := by
  refine (List.perm_ext_iff_of_nodup (Ledger.ofList es).distinct (Table.nodup_keys _)).2 fun k => ?_
  suffices all : ∀ (l : Ledger κ ν) (t : Table κ ν), (k ∈ l.keys ↔ k ∈ t.keys) →
      (k ∈ (es.foldl (fun l e => l.set e.1 e.2) l).keys ↔
        k ∈ (es.foldl (fun t e => t.insert e.1 e.2) t).keys) from
    all Ledger.empty Table.empty (iff_of_false List.not_mem_nil List.not_mem_nil)
  induction es with
  | nil => exact fun l t same => same
  | cons e es ih =>
    intro l t same
    rw [List.foldl_cons, List.foldl_cons]
    refine ih _ _ ?_
    rw [Ledger.mem_keys_set, ← Table.contains_iff, Table.contains_insert, Table.contains_iff, same]

/-- The locations that contents name are those that the board has occupied. -/
theorem Contents.named_perm (c : Contents) : c.named.Perm c.board.occupied := by
  have oceans : (Ledger.ofList (c.oceans.map fun h => (h, ()))).keys.Perm
      (KeySet.ofList c.oceans).keys := keys_ofList_perm _
  have cities := keys_ofList_perm c.cities
  have greeneries := (keys_ofList_perm c.greeneries).map Location.onMars
  have specialTiles := (keys_ofList_perm c.specialTiles).map Location.onMars
  exact ((cities.append (.refl _)).append greeneries).append specialTiles

/-- **The constructor accepts** contents exactly when the board of them is consistent. -/
theorem Contents.toBoard_eq_ok {c : Contents} :
    c.toBoard = .ok b ↔ b.Consistent ∧ c.board = b := by
  have same : (misplaced? c.board.spaces [] c.named <|> c.board.outOfRange?) = none ↔
      c.board.conflict? = none := by
    simp only [conflict?, Option.orElse_eq_orElse, Option.orElse_eq_or, Option.or_eq_none_iff]
    rw [misplaced?_eq_none_iff, misplaced?_eq_none_iff, c.named_perm.nodup_iff]
    simp only [c.named_perm.mem_iff]
  unfold toBoard
  split
  next v hv =>
    refine iff_of_false nofun ?_
    rintro ⟨consistent, rfl⟩
    rw [same.2 (conflict?_eq_none_iff.2 consistent)] at hv
    cases hv
  next accepted =>
    have consistent := conflict?_eq_none_iff.1 (same.1 accepted)
    constructor
    · rintro ⟨⟩
      exact ⟨consistent, rfl⟩
    · rintro ⟨-, rfl⟩
      rfl

/-! ## Placing -/

/-- A tile that is put down leaves an accepted board. -/
theorem Consistent.place (consistent : b.Consistent) (owned : b.Owned)
    (hp : b.place l t = .ok b') : b'.Consistent := by
  obtain ⟨-, oxygen, temperature⟩ := place_frame hp
  exact ⟨nodup_occupied_place consistent.exclusive owned hp,
    onBoard_place consistent.onBoard owned hp, oceanCount_place consistent.oceans hp,
    oxygen ▸ consistent.oxygen, temperature ▸ consistent.temperature⟩

/-! ## What shows -/

/-- A tile that shows at a location is held by the index of its kind. -/
inductive Shown (b : Board) : Location → Tile → Prop where
  | city {l : Location} {kind : Option CityKind} {owner : Option PlayerId} :
      b.cities.get? l = some (kind, owner) →
      Shown b l { kind := .city, owner, cityKind := kind }
  | ocean {h : Hex} : b.oceans.contains h = true → Shown b (.onMars h) .ocean
  | greenery {h : Hex} {p : PlayerId} : b.greeneries.get? h = some (some p) →
      Shown b (.onMars h) (.greenery p)
  | specialTile {h : Hex} {tile : Option SpecialTile} {owner : Option PlayerId} :
      b.specialTiles.get? h = some (tile, owner) →
      Shown b (.onMars h) { kind := .specialTile, owner, specialTile := tile }
  | empty {l : Location} : Shown b l .empty

theorem shown_status (b : Board) (l : Location) : b.Shown l (b.status l) := by
  unfold status
  split
  next kind owner hc => exact .city hc
  next =>
    cases l with
    | offMars s => exact .empty
    | onMars h =>
      dsimp only
      split
      next ocean => exact .ocean ocean
      next =>
        split
        next p hg =>
          have there : b.greeneries.get? h = some (some p) := by
            cases ho : b.greeneries.get? h with
            | none => simp [Table.getD, ho] at hg
            | some o => simpa [Table.getD, ho] using hg
          exact .greenery there
        next =>
          split
          next tile owner hs => exact .specialTile hs
          next => exact .empty

/-- The indexes that are asked before the one that holds a hex do not hold it. -/
theorem Consistent.apart (consistent : b.Consistent) (h : Hex) :
    (b.oceans.contains h = true → b.cities.get? (.onMars h) = none) ∧
    (b.greeneries.contains h = true →
      b.cities.get? (.onMars h) = none ∧ b.oceans.contains h = false) ∧
    (b.specialTiles.contains h = true → b.cities.get? (.onMars h) = none ∧
      b.oceans.contains h = false ∧ b.greeneries.get? h = none) := by
  have exclusive := consistent.exclusive
  simp only [occupied, List.nodup_append, List.mem_append, List.mem_map, ← Table.contains_iff]
    at exclusive
  obtain ⟨⟨⟨-, -, oceans⟩, -, greeneries⟩, -, specialTiles⟩ := exclusive
  simp only [← Table.contains_eq_false_iff, ← Bool.not_eq_true]
  refine ⟨fun ocean city => ?_, fun greenery => ⟨fun city => ?_, fun ocean => ?_⟩,
    fun special => ⟨fun city => ?_, fun ocean => ?_, fun greenery => ?_⟩⟩
  · exact oceans _ city _ ⟨h, ocean, rfl⟩ rfl
  · exact greeneries _ (.inl city) _ ⟨h, greenery, rfl⟩ rfl
  · exact greeneries _ (.inr ⟨h, ocean, rfl⟩) _ ⟨h, greenery, rfl⟩ rfl
  · exact specialTiles _ (.inl (.inl city)) _ ⟨h, special, rfl⟩ rfl
  · exact specialTiles _ (.inl (.inr ⟨h, ocean, rfl⟩)) _ ⟨h, special, rfl⟩ rfl
  · exact specialTiles _ (.inr ⟨h, greenery, rfl⟩) _ ⟨h, special, rfl⟩ rfl

/-- A city shows exactly where the index holds it. -/
theorem city_iff {kind : Option CityKind} {owner : Option PlayerId} :
    b.status l = { kind := .city, owner, cityKind := kind } ↔
      b.cities.get? l = some (kind, owner) := by
  constructor
  · intro shows
    have held := b.shown_status l
    rw [shows] at held
    cases held with
    | city held => exact held
  · intro held
    simp [status, held]

/-- So does an ocean, -/
theorem Consistent.ocean_iff (consistent : b.Consistent) :
    b.status (.onMars h) = .ocean ↔ b.oceans.contains h = true := by
  constructor
  · intro shows
    have held := b.shown_status (.onMars h)
    rw [shows] at held
    cases held with
    | ocean held => exact held
  · intro held
    simp [status, (consistent.apart h).1 held, held]

/-- a greenery of somebody, -/
theorem Consistent.greenery_iff (consistent : b.Consistent) {p : PlayerId} :
    b.status (.onMars h) = .greenery p ↔ b.greeneries.get? h = some (some p) := by
  constructor
  · intro shows
    have held := b.shown_status (.onMars h)
    rw [shows] at held
    cases held with
    | greenery held => exact held
  · intro held
    have there : b.greeneries.contains h = true := by simp [Table.contains, held]
    obtain ⟨city, ocean⟩ := (consistent.apart h).2.1 there
    simp [status, city, ocean, Table.getD, held]

/-- and a special tile. -/
theorem Consistent.specialTile_iff (consistent : b.Consistent) {tile : Option SpecialTile}
    {owner : Option PlayerId} :
    b.status (.onMars h) = { kind := .specialTile, owner, specialTile := tile } ↔
      b.specialTiles.get? h = some (tile, owner) := by
  constructor
  · intro shows
    have held := b.shown_status (.onMars h)
    rw [shows] at held
    cases held with
    | specialTile held => exact held
  · intro held
    have there : b.specialTiles.contains h = true := by simp [Table.contains, held]
    obtain ⟨city, ocean, greenery⟩ := (consistent.apart h).2.2 there
    simp [status, city, ocean, greenery, Table.getD, held]

end Terraforming.Board
