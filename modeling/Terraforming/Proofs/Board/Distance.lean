import Terraforming.Proofs.Board.Standard

/-!
# Cities at a distance

Two hexes are adjacent when they are one step apart, which is the same seen from either of them; a
board lists those neighbours of a hex that are within bounds.  A city is put where the restrictions of
its kind allow it, which look at the neighbours of the new city only.  Because being adjacent is
symmetric, that is enough to keep any two cities apart, unless one is of a kind that may go next to
another.

* `Hex.mem_neighbors` — the neighbours that are listed are the adjacent hexes within bounds;
* `Board.no_city_near` — what the restrictions of a city say about the places next to it;
* `Board.Settled.found` — a city that is put where it may go leaves the cities at a distance.
-/

namespace Terraforming

/-! ## Adjacent hexes -/

namespace Hex

variable {a b : Hex}

/-- The hexes are one step apart: they are not the same, and none of the three coordinates differs by
more than one. -/
def Adjacent (a b : Hex) : Prop :=
  a ≠ b ∧ (a.x - b.x).natAbs ≤ 1 ∧ (a.y - b.y).natAbs ≤ 1 ∧ (a.z - b.z).natAbs ≤ 1

theorem Adjacent.symm (h : a.Adjacent b) : b.Adjacent a := by
  obtain ⟨apart, x, y, z⟩ := h
  refine ⟨apart.symm, ?_, ?_, ?_⟩
  · omega
  · omega
  · omega

theorem Adjacent.ne (h : a.Adjacent b) : a ≠ b := h.1

/-- The six directions lead to the adjacent hexes. -/
theorem adjacent_iff :
    a.Adjacent b ↔ b ∈ directions.map fun d => (⟨a.x + d.1, a.y + d.2⟩ : Hex) := by
  obtain ⟨x, y⟩ := a
  obtain ⟨x', y'⟩ := b
  simp only [Adjacent, directions, List.map_cons, List.map_nil, List.mem_cons, List.not_mem_nil,
    or_false, ne_eq, Hex.mk.injEq, z]
  omega

/-- The neighbours that are listed are the adjacent hexes within bounds. -/
theorem mem_neighbors : b ∈ a.neighbors ↔ a.Adjacent b ∧ b.inBounds = true := by
  rw [neighbors, List.mem_filter, adjacent_iff]

end Hex

/-- The city may be next to another city. -/
def CityKind.Exempt (kind : Option CityKind) : Prop :=
  kind = some .noctisCity ∨ kind = some .urbanizedArea

namespace Board

variable {b b' : Board} {p : PlayerId} {l : Location} {kind : CityKind}

/-! ## The standard layout -/

theorem standard_inBounds :
    ∀ e ∈ standard.spaces.entries, (e.1.hex?.all Hex.inBounds) = true := by
  decide +kernel

theorem inBounds_of_standard {h : Hex} (space : standard.spaces.contains (.onMars h) = true) :
    h.inBounds = true := by
  obtain ⟨s, hs⟩ := Option.isSome_iff_exists.1 space
  exact standard_inBounds (.onMars h, s) (Table.get?_eq_some_iff.1 hs)

theorem standard_remote :
    ∀ e ∈ standard.spaces.entries,
      (e.2.sites.contains .phobosSpaceHaven || e.2.sites.contains .ganymedeColony) = true →
        e.1.isOnMars = false := by
  decide +kernel

/-! ## Where a city may go -/

/-- Next to a place where a city may go there is no other city, unless the kind of the new one is
exempt. -/
theorem no_city_near (layout : b.spaces = standard.spaces)
    (legal : l ∈ b.legalLocations p (Restriction.forCity kind))
    (strict : ¬CityKind.Exempt (some kind)) :
    ∀ h ∈ l.neighbors, b.cities.get? (.onMars h) = none := by
  obtain ⟨space, hs, -, passes⟩ := mem_legalLocations legal
  rw [layout] at hs
  have listed := Table.get?_eq_some_iff.1 hs
  -- a kind keeps its distance by name, by asking for no tiles at all, or by leaving the planet
  have alone : .notNextToCity ∈ Restriction.forCity kind →
      ∀ h ∈ l.neighbors, b.cities.get? (.onMars h) = none := by
    intro asked h hh
    have passed : decide (b.adjacentCities l = 0) = true := passes _ asked
    have none : b.adjacentCities l = 0 := of_decide_eq_true passed
    have free := List.countP_eq_zero.1 none h hh
    exact Table.contains_eq_false_iff.1 (Bool.not_eq_true _ ▸ free)
  have remote : l.isOnMars = false → ∀ h ∈ l.neighbors, b.cities.get? (.onMars h) = none := by
    intro away h hh
    cases l with
    | onMars x => cases away
    | offMars s => cases hh
  cases kind with
  | regular | capital | lavaTubeSettlement => exact alone (by decide)
  | researchOutpost =>
    intro h hh
    have passed : decide (b.adjacentTiles l = 0) = true := passes .notNextToAnyOtherTile (by decide)
    have none : b.adjacentTiles l = 0 := of_decide_eq_true passed
    rw [adjacentTiles, neighborStatus, List.countP_map] at none
    have empty := List.countP_eq_zero.1 none h hh
    exact city_of_status_isEmpty (by simpa using empty)
  | phobosSpaceHaven =>
    have named : space.sites.contains .phobosSpaceHaven = true :=
      passes (.atSite .phobosSpaceHaven) (by decide)
    exact remote (standard_remote (l, space) listed (by rw [named]; rfl))
  | ganymedeColony =>
    have named : space.sites.contains .ganymedeColony = true :=
      passes (.atSite .ganymedeColony) (by decide)
    exact remote (standard_remote (l, space) listed (by rw [named, Bool.or_true]))
  | noctisCity => exact absurd (.inl rfl) strict
  | urbanizedArea => exact absurd (.inr rfl) strict

/-! ## Keeping the distance -/

/-- Of two cities on adjacent hexes one is exempt. -/
def Spaced (b : Board) : Prop :=
  ∀ h h' kind owner kind' owner', h.Adjacent h' → b.cities.get? (.onMars h) = some (kind, owner) →
    b.cities.get? (.onMars h') = some (kind', owner') →
      CityKind.Exempt kind ∨ CityKind.Exempt kind'

/-- The board has the standard layout, the cities are on its spaces, and they are at a distance. -/
structure Settled (b : Board) : Prop where
  layout : b.spaces = standard.spaces
  onBoard : ∀ l e, b.cities.get? l = some e → standard.spaces.contains l = true
  spaced : b.Spaced

namespace Settled

theorem of_bare (layout : b.spaces = standard.spaces) (bare : b.cities = ∅) : b.Settled := by
  have none : ∀ l e, b.cities.get? l ≠ some e := by
    intro l e found
    rw [bare] at found
    cases found
  exact ⟨layout, fun l e found => absurd found (none l e),
    fun h h' kind owner kind' owner' _ found => absurd found (none _ _)⟩

/-- Only layout and cities matter. -/
theorem of_same (settled : b.Settled) (spaces : b'.spaces = b.spaces) (cities : b'.cities = b.cities) :
    b'.Settled := by
  obtain ⟨layout, onBoard, spaced⟩ := settled
  refine ⟨spaces.trans layout, ?_, ?_⟩
  · rw [cities]
    exact onBoard
  · rw [Spaced, cities]
    exact spaced

/-- A tile that is no city changes nothing between the cities. -/
theorem beside {t : Tile} (settled : b.Settled) (other : t.isCity = false)
    (placed : b.place l t = .ok b') : b'.Settled := by
  refine settled.of_same (place_frame placed).1 ?_
  obtain ⟨-, -, ⟨city, -⟩ | ⟨h, -, -, covered⟩⟩ := place_eq_ok.1 placed
  · rw [other] at city
    cases city
  · obtain ⟨-, -, rfl⟩ | ⟨-, rfl⟩ | ⟨-, rfl⟩ := cover_eq_ok.1 covered
    · rfl
    · rfl
    · rfl

/-- A city that is put where it may go leaves the cities at a distance. -/
theorem found (settled : b.Settled) (legal : l ∈ b.legalLocations p (Restriction.forCity kind))
    (placed : b.place l (.city kind p) = .ok b') : b'.Settled := by
  obtain ⟨layout, onBoard, spaced⟩ := settled
  obtain ⟨space, -, ⟨-, rfl⟩ | ⟨-, -, noCity, -⟩⟩ := place_eq_ok.1 placed
  · have here : standard.spaces.contains l = true := layout ▸ space
    refine ⟨layout, Table.forall_insert onBoard here, ?_⟩
    -- seen from the new city, an adjacent old one is among the neighbours that were looked at
    have first : ∀ h h' e', l = .onMars h → h.Adjacent h' → b.cities.get? (.onMars h') = some e' →
        CityKind.Exempt (some kind) := by
      rintro h h' e' rfl adjacent old
      by_contra strict
      have near : h' ∈ (Location.onMars h).neighbors :=
        Hex.mem_neighbors.2 ⟨adjacent, inBounds_of_standard (onBoard _ _ old)⟩
      rw [no_city_near layout legal strict h' near] at old
      cases old
    intro h h' k owner k' owner' adjacent city city'
    simp only [Table.get?_insert] at city city'
    by_cases new : Location.onMars h = l
    · rw [if_pos new] at city
      cases city
      have other : Location.onMars h' ≠ l := by
        rintro rfl
        exact adjacent.ne (Location.onMars.inj new)
      rw [if_neg other] at city'
      exact .inl (first h h' _ new.symm adjacent city')
    · rw [if_neg new] at city
      by_cases new' : Location.onMars h' = l
      · rw [if_pos new'] at city'
        cases city'
        exact .inr (first h' h _ new'.symm adjacent.symm city)
      · rw [if_neg new'] at city'
        exact spaced h h' k owner k' owner' adjacent city city'
  · cases noCity

end Settled

end Board

end Terraforming
