import Terraforming.Board.Layout
import Terraforming.Board.Placement
import Terraforming.Proofs.Board.Sound

/-!
# The standard layout

Two facts about the printed board on which turns rest: what asks for ground only goes on Mars
(`onMars_of_allowed`), and what a space brings is a plain gain (`plain_of_mem_placementBonuses`).
Both are read off the spaces once and hold wherever the tiles lie.  Without tiles the board is sound
(`sound_standard`).
-/

namespace Terraforming

/-! ## Ground -/

/-- Land, a space reserved for an ocean, or a volcano. -/
def Space.isGround (s : Space) : Bool :=
  s.designations.contains .land || s.designations.contains .reservedForOcean ||
    s.sites.contains .volcanicArea

/-- A restriction that only ground passes. -/
def Restriction.asksForGround (r : Restriction) : Bool :=
  r.type = .landTile || r.type = .reservedForOcean ||
    (r.type = .atSite && r.site = some .volcanicArea)

namespace Restriction

theorem ground_forOcean (kind : Option LocationKind) :
    (forOcean kind).any asksForGround = true := by
  obtain _ | _ | _ := kind <;> rfl

theorem ground_forGreenery (kind : Option LocationKind) :
    (forGreenery kind).any asksForGround = true := by
  obtain _ | _ | _ := kind <;> rfl

theorem ground_forSpecialTile (tile : SpecialTile) :
    (forSpecialTile tile).any asksForGround = true := by
  cases tile <;> rfl

end Restriction

namespace Board

variable {b : Board} {p : PlayerId} {l : Location} {rs : List Restriction}

/-- A location that is allowed is an empty space that passes every restriction. -/
theorem mem_legalLocations (h : l ∈ b.legalLocations p rs) :
    ∃ space, b.spaces.get? l = some space ∧ (b.status l).isEmpty = true ∧
      ∀ r ∈ rs, b.passes p space l r = true := by
  have allowed := (List.mem_filter.1 h).2
  unfold allows at allowed
  split at allowed
  · cases allowed
  next space hs =>
    rw [Bool.and_eq_true, List.all_eq_true] at allowed
    exact ⟨space, hs, allowed⟩

theorem isGround_of_passes {space : Space} {r : Restriction} (asks : r.asksForGround = true)
    (h : b.passes p space l r = true) : space.isGround = true := by
  simp only [Restriction.asksForGround, Bool.or_eq_true, Bool.and_eq_true, decide_eq_true_eq]
    at asks
  simp only [Space.isGround, Bool.or_eq_true]
  unfold passes at h
  rcases asks with (type | type) | ⟨type, site⟩
  · simp only [type] at h
    exact .inl (.inl h)
  · simp only [type] at h
    exact .inl (.inr h)
  · simp only [type, site] at h
    exact .inr h

theorem standard_ground :
    ∀ e ∈ standard.spaces.entries, e.2.isGround = true → e.1.isOnMars = true := by
  decide +kernel

/-- What asks for ground goes on a hex. -/
theorem onMars_of_allowed (layout : b.spaces = standard.spaces)
    (asks : rs.any Restriction.asksForGround = true) (h : l ∈ b.legalLocations p rs) :
    ∃ x, l = .onMars x := by
  obtain ⟨space, hs, -, passes⟩ := mem_legalLocations h
  obtain ⟨r, hr, ground⟩ := List.any_eq_true.1 asks
  rw [layout] at hs
  have mars := standard_ground (l, space) (Table.get?_eq_some_iff.1 hs)
    (isGround_of_passes ground (passes r hr))
  cases l with
  | onMars x => exact ⟨x, rfl⟩
  | offMars s => cases mars

end Board

/-! ## The empty board -/

namespace Board

theorem sound_standard : standard.Sound where
  exclusive := .nil
  onBoard := fun l hl => nomatch hl
  oceans := Nat.zero_le 9
  oxygen := show 0 ≤ (0 : Int) ∧ 0 ≤ (14 : Int) by decide
  temperature := show (-30 : Int) ≤ -30 ∧ (-30 : Int) ≤ 8 by decide
  evenTemperature := ⟨-15, rfl⟩

theorem owned_standard : standard.Owned := fun _ _ ho => nomatch ho

end Board

/-! ## Bonuses -/

/-- A gain of some resource or of cards. -/
def Impact.isPlainGain (i : Impact) : Bool :=
  (i.type = .gainResource && i.resource.isSome || i.type = .drawCard) && decide (0 ≤ i.count)

namespace Board

variable {b : Board} {l : Location} {i : Impact}

theorem standard_bonuses :
    ∀ e ∈ standard.spaces.entries, ∀ i ∈ e.2.bonuses, i.isPlainGain = true := by
  decide +kernel

theorem plain_addMegacredits {extra : Int} (hextra : 0 ≤ extra) {is : List Impact}
    (plain : ∀ i ∈ is, i.isPlainGain = true) :
    ∀ i ∈ addMegacredits extra is, i.isPlainGain = true := by
  have gain : ∀ n : Int, 0 ≤ n → (Impact.gainResource .megacredits n).isPlainGain = true := by
    intro n hn
    exact decide_eq_true hn
  induction is with
  | nil =>
    intro i hi
    rw [List.mem_singleton.1 hi]
    exact gain extra hextra
  | cons j js ih =>
    have head := plain j List.mem_cons_self
    have tail : ∀ i ∈ js, i.isPlainGain = true := fun i hi => plain i (List.mem_cons_of_mem _ hi)
    intro i hi
    rw [addMegacredits] at hi
    split at hi
    · rcases List.mem_cons.1 hi with rfl | hi
      · rw [Impact.isPlainGain, Bool.and_eq_true, decide_eq_true_eq] at head
        exact gain _ (Int.add_nonneg head.2 hextra)
      · exact tail i hi
    · rcases List.mem_cons.1 hi with rfl | hi
      · exact head
      · exact ih tail i hi

theorem mem_addMegacredits {extra : Int} {is : List Impact} (hi : i ∈ addMegacredits extra is) :
    i ∈ is ∨ ∃ n, i = .gainResource .megacredits n := by
  induction is with
  | nil => exact .inr ⟨extra, List.mem_singleton.1 hi⟩
  | cons j js ih =>
    rw [addMegacredits] at hi
    split at hi <;> rcases List.mem_cons.1 hi with rfl | hi
    · exact .inr ⟨_, rfl⟩
    · exact .inl (List.mem_cons_of_mem j hi)
    · exact .inl List.mem_cons_self
    · exact (ih hi).imp_left (List.mem_cons_of_mem j)

/-- What placing a tile brings is printed on the space, or megacredits. -/
theorem mem_placementBonuses (hi : i ∈ b.placementBonuses l) :
    (∃ space, b.spaces.get? l = some space ∧ i ∈ space.bonuses) ∨
      ∃ n, i = .gainResource .megacredits n := by
  have printed : i ∈ ((b.spaces.get? l).map (·.bonuses)).getD [] →
      ∃ space, b.spaces.get? l = some space ∧ i ∈ space.bonuses := by
    cases hs : b.spaces.get? l with
    | none => exact fun hi => absurd hi List.not_mem_nil
    | some space => exact fun hi => ⟨space, rfl, hi⟩
  unfold placementBonuses at hi
  simp only at hi
  split at hi
  · exact .inl (printed hi)
  · exact (mem_addMegacredits hi).imp_left printed

/-- What placing a tile brings is a plain gain. -/
theorem plain_of_mem_placementBonuses (layout : b.spaces = standard.spaces)
    (hi : i ∈ b.placementBonuses l) : i.isPlainGain = true := by
  have printed : ∀ i ∈ ((b.spaces.get? l).map (·.bonuses)).getD [], i.isPlainGain = true := by
    rw [layout]
    cases hs : standard.spaces.get? l with
    | none => exact nofun
    | some space => exact standard_bonuses (l, space) (Table.get?_eq_some_iff.1 hs)
  unfold placementBonuses at hi
  simp only at hi
  split at hi
  · exact printed i hi
  · exact plain_addMegacredits (Int.natCast_nonneg _) printed i hi

end Board

end Terraforming
