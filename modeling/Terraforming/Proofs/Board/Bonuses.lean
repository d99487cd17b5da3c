import Mathlib.Data.Finset.Card
import Terraforming.Proofs.Board.Worth

/-!
# What a placement brings

A space has its bonus printed on it, and every ocean next to it is worth two megacredits on top.  The
ocean money is added to the first megacredit gain that is printed, so that the list only grows where
there is none.

* `others_addMegacredits`, `megacredits_addMegacredits`, `countP_addMegacredits` — what adding money to a
  list does to its other impacts, to the money in it, and to the number of its megacredit gains;
* `adjacentOceans_eq_card` — the oceans that are counted are those on hexes next to the location;
* `bonuses_add_up` — the bonuses of every location of every board.
-/

namespace Terraforming

instance Hex.decidableAdjacent (a b : Hex) : Decidable (a.Adjacent b) :=
  inferInstanceAs (Decidable (_ ∧ _))

namespace Board

variable {b b' : Board} {l : Location} {extra : Int} {i : Impact} {is : List Impact}

/-! ## Money in a list -/

/-- The impacts of a list that are no megacredit gains, in their order. -/
def otherBonuses (is : List Impact) : List Impact := is.filter fun i => !isMegacreditGain i

/-- What the megacredit gains of a list come to together. -/
def megacredits (is : List Impact) : Int := total ((is.filter isMegacreditGain).map (·.count))

theorem isMegacreditGain_gainResource (n : Int) :
    isMegacreditGain (.gainResource .megacredits n) = true := rfl

/-- The first megacredit gain takes the money up, -/
theorem addMegacredits_cons_of_gain (gain : isMegacreditGain i = true) :
    addMegacredits extra (i :: is) = .gainResource .megacredits (i.count + extra) :: is :=
  if_pos gain

/-- and any other impact lets it pass. -/
theorem addMegacredits_cons_of_other (other : ¬isMegacreditGain i = true) :
    addMegacredits extra (i :: is) = i :: addMegacredits extra is :=
  if_neg other

theorem otherBonuses_cons (i : Impact) (is : List Impact) :
    otherBonuses (i :: is) = (if isMegacreditGain i then [] else [i]) ++ otherBonuses is := by
  by_cases gain : isMegacreditGain i
  · simp [otherBonuses, gain]
  · simp [otherBonuses, gain]

theorem others_addMegacredits (extra : Int) (is : List Impact) :
    otherBonuses (addMegacredits extra is) = otherBonuses is := by
  induction is with
  | nil => rfl
  | cons i is ih =>
    by_cases gain : isMegacreditGain i
    · rw [addMegacredits_cons_of_gain gain, otherBonuses_cons, otherBonuses_cons, if_pos gain,
        if_pos (isMegacreditGain_gainResource _)]
    · rw [addMegacredits_cons_of_other gain, otherBonuses_cons, otherBonuses_cons, ih]

theorem megacredits_cons (i : Impact) (is : List Impact) :
    megacredits (i :: is) = (if isMegacreditGain i then i.count else 0) + megacredits is := by
  by_cases gain : isMegacreditGain i
  · simp [megacredits, gain]
  · simp [megacredits, gain]

theorem megacredits_addMegacredits (extra : Int) (is : List Impact) :
    megacredits (addMegacredits extra is) = megacredits is + extra := by
  induction is with
  | nil =>
    rw [addMegacredits, megacredits_cons, if_pos (isMegacreditGain_gainResource extra)]
    exact Int.add_comm extra 0
  | cons i is ih =>
    by_cases gain : isMegacreditGain i
    · rw [addMegacredits_cons_of_gain gain, megacredits_cons, megacredits_cons, if_pos gain,
        if_pos (isMegacreditGain_gainResource _)]
      show i.count + extra + megacredits is = i.count + megacredits is + extra
      omega
    · rw [addMegacredits_cons_of_other gain, megacredits_cons, megacredits_cons, if_neg gain, ih]
      omega

/-- A gain is added only where there was none. -/
theorem countP_addMegacredits (extra : Int) (is : List Impact) :
    (addMegacredits extra is).countP isMegacreditGain =
      is.countP isMegacreditGain + if is.countP isMegacreditGain = 0 then 1 else 0 := by
  induction is with
  | nil => rfl
  | cons i is ih =>
    by_cases gain : isMegacreditGain i
    · rw [addMegacredits_cons_of_gain gain, List.countP_cons_of_pos gain,
        List.countP_cons_of_pos (isMegacreditGain_gainResource _), if_neg (Nat.succ_ne_zero _)]
    · rw [addMegacredits_cons_of_other gain, List.countP_cons_of_neg gain,
        List.countP_cons_of_neg gain, ih]

/-- Money that is added shows. -/
theorem addMegacredits_ne (some : extra ≠ 0) : addMegacredits extra is ≠ is := by
  intro same
  have sum := megacredits_addMegacredits extra is
  rw [same] at sum
  omega

/-! ## Oceans next to a location -/

/-- The hexes with an ocean that are next to a location and within bounds. -/
def oceansAround (b : Board) : Location → Finset Hex
  | .offMars _ => ∅
  | .onMars a => b.oceans.keys.toFinset.filter fun h => a.Adjacent h ∧ h.inBounds = true

/-- Counting the neighbours that hold an ocean is counting the oceans that are neighbours. -/
theorem adjacentOceans_eq_card (b : Board) (l : Location) :
    b.adjacentOceans l = (b.oceansAround l).card := by
  cases l with
  | offMars s => rfl
  | onMars a =>
    have once : (a.neighbors.filter fun h => b.oceans.contains h).Nodup :=
      (Location.nodup_neighbors (.onMars a)).filter _
    have listed : (a.neighbors.filter fun h => b.oceans.contains h).toFinset =
        b.oceansAround (.onMars a) := by
      ext h
      rw [oceansAround, List.mem_toFinset, List.mem_filter, Finset.mem_filter, List.mem_toFinset,
        Hex.mem_neighbors, Table.contains_iff]
      exact and_comm
    rw [← listed, List.toFinset_card_of_nodup once]
    exact List.countP_eq_length_filter

/-! ## Bonuses -/

/-- The bonus that is printed on a location: nothing where there is no space. -/
def printed (b : Board) (l : Location) : List Impact := ((b.spaces.get? l).map (·.bonuses)).getD []

/-- Placing a tile leaves what is printed as it is. -/
theorem printed_place {t : Tile} (placed : b.place l t = .ok b') : b'.printed = b.printed := by
  funext m
  rw [printed, printed, (place_frame placed).1]

theorem placementBonuses_of_dry (dry : b.adjacentOceans l = 0) :
    b.placementBonuses l = b.printed l := by
  have nothing : oceanAdjacencyBonus * b.adjacentOceans l = 0 := by
    rw [dry]
    rfl
  exact if_pos nothing

theorem placementBonuses_of_wet (wet : b.adjacentOceans l ≠ 0) :
    b.placementBonuses l = addMegacredits (2 * b.adjacentOceans l) (b.printed l) := by
  have something : oceanAdjacencyBonus * b.adjacentOceans l ≠ 0 := by
    simp only [oceanAdjacencyBonus]
    omega
  exact if_neg something

/-- **Placement bonuses add up.**  Whatever is printed on the space of a location: the impacts of its
bonus that are no megacredit gains are those printed, in their order; the megacredits are those printed
and two for each ocean next to it; there is one megacredit gain more than printed exactly where none is
printed and there is such an ocean; and what is printed is what is had exactly where there is none. -/
theorem bonuses_add_up (b : Board) (l : Location) :
    otherBonuses (b.placementBonuses l) = otherBonuses (b.printed l) ∧
      megacredits (b.placementBonuses l) = megacredits (b.printed l) + 2 * (b.oceansAround l).card ∧
      (b.placementBonuses l).countP isMegacreditGain = (b.printed l).countP isMegacreditGain +
        (if (b.printed l).countP isMegacreditGain = 0 ∧ b.oceansAround l ≠ ∅ then 1 else 0) ∧
      (b.placementBonuses l = b.printed l ↔ b.oceansAround l = ∅) := by
  have around : b.oceansAround l = ∅ ↔ b.adjacentOceans l = 0 := by
    rw [adjacentOceans_eq_card, Finset.card_eq_zero]
  simp only [← adjacentOceans_eq_card, ne_eq, around]
  by_cases dry : b.adjacentOceans l = 0
  · rw [placementBonuses_of_dry dry]
    simp [dry]
  · have some : (2 * b.adjacentOceans l : Int) ≠ 0 := by omega
    rw [placementBonuses_of_wet dry]
    refine ⟨others_addMegacredits _ _, megacredits_addMegacredits _ _, ?_, ?_⟩
    · rw [countP_addMegacredits]
      simp [dry]
    · exact iff_of_false (addMegacredits_ne some) dry

end Board

end Terraforming
