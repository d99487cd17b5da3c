import Terraforming.Proofs.Board.Worth

/-!
# Tiles in any order

A tile that is put down is written into the index of its kind, and two tiles at two places can be
written in either order.  What is asked of a tile before it goes down concerns its own location, and how
many oceans there are; so if tiles can be put down one after the other, they can be put down in any
order, and the board is the same in the end.

* `lay`, `Takes`, `place_iff` — what is written, and what is asked before;
* `lay_comm`, `place_comm` — two tiles;
* `placeAll_perm` — any number of them.
-/

namespace Terraforming

namespace Table

variable {κ ν : Type} [Ord κ] [Std.TransOrd κ] [Std.LawfulEqOrd κ] [DecidableEq κ]

/-- Two keys can be written in either order. -/
theorem insert_comm (t : Table κ ν) {k k' : κ} (v v' : ν) (apart : k ≠ k') :
    (t.insert k v).insert k' v' = (t.insert k' v').insert k v := by
  refine ext_get? fun j => ?_
  simp only [get?_insert]
  by_cases first : j = k
  · have second : j ≠ k' := fun same => apart (first.symm.trans same)
    rw [if_neg second, if_pos first, if_pos first]
  · rw [if_neg first, if_neg first]

omit [Std.LawfulEqOrd κ] [DecidableEq κ] in
/-- A new key makes a table longer by one. -/
theorem size_insert {t : Table κ ν} {k : κ} (v : ν) (absent : t.get? k = none) :
    (t.insert k v).size = t.size + 1 := by
  have grown : (t.insert k v).keys.length = t.keys.length + 1 := (keys_insert_perm absent).length_eq
  simpa only [keys, size, List.length_map] using grown

end Table

namespace Board

variable {b b₁ b₂ : Board} {l m : Location} {t u : Tile}

/-! ## One tile -/

/-- The board with a tile in the index of its kind. -/
def lay (b : Board) (l : Location) (t : Tile) : Board :=
  match t.kind, l with
  | .city, l => { b with cities := b.cities.insert l (t.cityKind, t.owner) }
  | .ocean, .onMars h => { b with oceans := b.oceans.add h }
  | .greenery, .onMars h => { b with greeneries := b.greeneries.insert h t.owner }
  | .specialTile, .onMars h =>
    { b with specialTiles := b.specialTiles.insert h (t.specialTile, t.owner) }
  | _, _ => b

/-- What a board asks of a tile before it is put down. -/
structure Takes (b : Board) (l : Location) (t : Tile) : Prop where
  space : b.spaces.contains l = true
  empty : (b.status l).isEmpty = true
  fits : t.kind = .city ∨ l.isOnMars = true ∧ t.kind ≠ .empty
  left : t.kind = .ocean → b.oceanCount < maxOceans

theorem place_iff : b.place l t = .ok b₁ ↔ b.Takes l t ∧ b.lay l t = b₁ := by
  rw [place_eq_ok]
  constructor
  · rintro ⟨space, empty, ⟨city, rfl⟩ | ⟨h, rfl, -, covered⟩⟩
    · have kind : t.kind = .city := of_decide_eq_true city
      exact ⟨⟨space, empty, .inl kind, by simp [kind]⟩, by simp only [lay, kind]⟩
    · obtain ⟨kind, left, rfl⟩ | ⟨kind, rfl⟩ | ⟨kind, rfl⟩ := cover_eq_ok.1 covered
      · have few := oceansMaxed_eq_false.1 left
        exact ⟨⟨space, empty, .inr ⟨rfl, by simp [kind]⟩, fun _ => few⟩, by simp only [lay, kind]⟩
      · exact ⟨⟨space, empty, .inr ⟨rfl, by simp [kind]⟩, by simp [kind]⟩, by simp only [lay, kind]⟩
      · exact ⟨⟨space, empty, .inr ⟨rfl, by simp [kind]⟩, by simp [kind]⟩, by simp only [lay, kind]⟩
  · rintro ⟨⟨space, empty, fits, left⟩, rfl⟩
    refine ⟨space, empty, ?_⟩
    by_cases city : t.kind = .city
    · exact .inl ⟨decide_eq_true city, by simp only [lay, city]⟩
    · obtain ⟨mars, tile⟩ := fits.resolve_left city
      cases l with
      | offMars s => cases mars
      | onMars h =>
        refine .inr ⟨h, rfl, decide_eq_false city, cover_eq_ok.2 ?_⟩
        cases kind : t.kind with
        | empty => exact absurd kind tile
        | city => exact absurd kind city
        | ocean => exact .inl ⟨rfl, oceansMaxed_eq_false.2 (left kind), by simp only [lay, kind]⟩
        | greenery => exact .inr (.inl ⟨rfl, by simp only [lay, kind]⟩)
        | specialTile => exact .inr (.inr ⟨rfl, by simp only [lay, kind]⟩)

/-- Only an ocean adds to the oceans. -/
theorem oceanCount_lay (takes : b.Takes l t) :
    (b.lay l t).oceanCount = b.oceanCount + if t.kind = .ocean then 1 else 0 := by
  obtain ⟨-, empty, fits, -⟩ := takes
  unfold lay
  cases kind : t.kind with
  | ocean =>
    obtain ⟨mars, -⟩ := fits.resolve_left (by simp [kind])
    cases l with
    | offMars s => cases mars
    | onMars h =>
      exact Table.size_insert () (Table.contains_eq_false_iff.1 (hex_of_status_isEmpty empty).1)
  | empty | city | greenery | specialTile => cases l <;> rfl

/-! ## Two tiles -/

/-- Two tiles can be laid in either order. -/
theorem lay_comm (b : Board) (apart : l ≠ m) (t u : Tile) :
    (b.lay l t).lay m u = (b.lay m u).lay l t := by
  have hexes : ∀ {h k : Hex}, Location.onMars h ≠ .onMars k → h ≠ k :=
    fun apart same => apart (congrArg Location.onMars same)
  -- tiles of two kinds are written into two indexes, and tiles of one kind at two keys
  cases ht : t.kind <;> cases hu : u.kind <;> cases l <;> cases m <;>
    simp only [lay, ht, hu, KeySet.add] <;>
    first
      | rw [Table.insert_comm _ _ _ apart]
      | rw [Table.insert_comm _ _ _ (hexes apart)]

theorem spaces_lay (b : Board) (l : Location) (t : Tile) : (b.lay l t).spaces = b.spaces := by
  unfold lay
  split <;> rfl

/-- A tile that shows leaves no room for another. -/
theorem ne_of_takes (shows : t.Shows) (first : b.Takes l t) (second : (b.lay l t).Takes m u) :
    l ≠ m := by
  rintro rfl
  have empty := second.empty
  rw [status_place_shown shows (place_iff.2 ⟨first, rfl⟩), Tile.isEmpty_iff] at empty
  obtain city | ⟨-, tile⟩ := first.fits
  · simp [Tile.shown, city] at empty
  · cases kind : t.kind with
    | empty => exact tile kind
    | _ => simp [Tile.shown, kind, Tile.ocean] at empty

/-- What is asked of a tile is no less when another lies elsewhere, -/
theorem Takes.before (shows : t.Shows) (first : b.Takes l t) (second : (b.lay l t).Takes m u) :
    b.Takes m u := by
  have apart := ne_of_takes shows first second
  refine ⟨b.spaces_lay l t ▸ second.space, ?_, second.fits, fun ocean => ?_⟩
  · rw [← status_place_of_ne apart.symm (place_iff.2 ⟨first, rfl⟩)]
    exact second.empty
  · have few := second.left ocean
    rw [oceanCount_lay first] at few
    omega

/-- and no more, unless they are both oceans, for which there was room anyway. -/
theorem Takes.after (shows : t.Shows) (first : b.Takes l t) (second : (b.lay l t).Takes m u) :
    (b.lay m u).Takes l t := by
  have apart := ne_of_takes shows first second
  have before := Takes.before shows first second
  refine ⟨(b.spaces_lay m u).symm ▸ first.space, ?_, first.fits, fun ocean => ?_⟩
  · rw [status_place_of_ne apart (place_iff.2 ⟨before, rfl⟩)]
    exact first.empty
  · rw [oceanCount_lay before]
    split
    next both =>
      have few := second.left both
      rwa [oceanCount_lay first, if_pos ocean] at few
    next => exact first.left ocean

/-- **Two tiles can be put down** in either order. -/
theorem place_comm (shows : t.Shows) (first : b.place l t = .ok b₁)
    (second : b₁.place m u = .ok b₂) :
    ∃ b₁', b.place m u = .ok b₁' ∧ b₁'.place l t = .ok b₂ := by
  obtain ⟨takes, rfl⟩ := place_iff.1 first
  obtain ⟨takes', rfl⟩ := place_iff.1 second
  refine ⟨b.lay m u, place_iff.2 ⟨.before shows takes takes', rfl⟩,
    place_iff.2 ⟨.after shows takes takes', ?_⟩⟩
  exact (b.lay_comm (ne_of_takes shows takes takes') t u).symm

/-! ## Any number of tiles -/

/-- Tiles put down one after the other. -/
def placeAll (b : Board) : List (Location × Tile) → Except Fault Board
  | [] => .ok b
  | e :: tiles => b.place e.1 e.2 >>= fun b => b.placeAll tiles

theorem placeAll_cons {e : Location × Tile} {tiles : List (Location × Tile)} :
    b.placeAll (e :: tiles) = .ok b₂ ↔
      ∃ b₁, b.place e.1 e.2 = .ok b₁ ∧ b₁.placeAll tiles = .ok b₂ :=
  bind_eq_ok

/-- **Tiles can be put down in any order**, and the board is the same. -/
theorem placeAll_perm {tiles tiles' : List (Location × Tile)} (same : tiles.Perm tiles')
    (allShow : ∀ e ∈ tiles, e.2.Shows) (placed : b.placeAll tiles = .ok b₂) :
    b.placeAll tiles' = .ok b₂ := by
  induction same generalizing b with
  | nil => exact placed
  | cons e _ ih =>
    obtain ⟨b₁, first, rest⟩ := placeAll_cons.1 placed
    exact placeAll_cons.2 ⟨b₁, first, ih (List.forall_mem_cons.1 allShow).2 rest⟩
  | swap e d tiles =>
    obtain ⟨b₁, first, placed⟩ := placeAll_cons.1 placed
    obtain ⟨b₃, second, rest⟩ := placeAll_cons.1 placed
    obtain ⟨b₁', first', second'⟩ := place_comm (List.forall_mem_cons.1 allShow).1 first second
    exact placeAll_cons.2 ⟨b₁', first', placeAll_cons.2 ⟨b₃, second', rest⟩⟩
  | trans same _ ih ih' =>
    exact ih' (fun e he => allShow e (same.mem_iff.2 he)) (ih allShow placed)

end Board

end Terraforming
