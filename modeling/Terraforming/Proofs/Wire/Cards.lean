import Terraforming.Proofs.Card.Sameness
import Terraforming.Proofs.Wire.Checked
import Terraforming.Wire.Cards

/-!
# Cards, read back

A card that is written in full is read back as it was, with everything printed on it.  Impacts have
options, which are impacts again: they are read back as long as they are not nested deeper than a
reader goes, which holds of everything that has a readable text.

* `Wire.Shallow` — what is not nested too deep, and so are its parts;
* `Wire.readImpactWithin_write` — impacts, by induction on the levels that a reader goes down;
* `Wire.readCard_write` — cards;
* `Wire.plain_writeCard` — what is written of them has a text of its own.
-/

namespace Terraforming

instance : Vocabulary.Faithful CostClass := ⟨fun a => by cases a <;> decide +kernel⟩

instance : Vocabulary.Faithful Resource := ⟨fun a => by cases a <;> decide +kernel⟩

instance : Vocabulary.Faithful CardResource := ⟨fun a => by cases a <;> decide +kernel⟩

instance : Vocabulary.Faithful RequirementType := ⟨fun a => by cases a <;> decide +kernel⟩

instance : Vocabulary.Faithful ActionType := ⟨fun a => by cases a <;> decide +kernel⟩

instance : Vocabulary.Faithful EffectType := ⟨fun a => by cases a <;> decide +kernel⟩

instance : Vocabulary.Faithful ImpactType := ⟨fun a => by cases a <;> decide +kernel⟩

instance : Vocabulary.Faithful CardTag := ⟨fun a => by cases a <;> decide +kernel⟩

instance : Vocabulary.Faithful CardKind := ⟨fun a => by cases a <;> decide +kernel⟩

instance : Vocabulary.Faithful LocationKind := ⟨fun a => by cases a <;> decide +kernel⟩

instance : Vocabulary.Faithful CityKind := ⟨fun a => by cases a <;> decide +kernel⟩

instance : Vocabulary.Faithful SpecialTile := ⟨fun a => by cases a <;> decide +kernel⟩

instance : Vocabulary.Faithful PointsType := ⟨fun a => by cases a <;> decide +kernel⟩

namespace Wire

open Reader

/-! ## Depth -/

/-- A value that is not nested deeper than impacts are read. -/
def Shallow (limits : Json.Limits) (j : Json) : Prop :=
  ∃ depth ≤ limits.levels, j.fits limits.digits depth = true

variable {limits : Json.Limits}

/-- What is within the limits is shallow, if impacts are read down to where a text may be nested. -/
theorem shallow_of_within {j : Json} (reach : limits.depth ≤ limits.levels)
    (within : j.within limits = true) : Shallow limits j :=
  ⟨limits.depth, reach, within⟩

theorem Shallow.element {xs : List Json} (h : Shallow limits (.array xs)) {x : Json} (hx : x ∈ xs) :
    Shallow limits x := by
  obtain ⟨depth, low, fits⟩ := h
  exact ⟨depth - 1, Nat.le_trans (Nat.sub_le _ _) low, (Json.fits_of_mem_array fits hx).2⟩

theorem Shallow.member {ms : List (String × Json)} (h : Shallow limits (.object ms))
    {m : String × Json}
    (hm : m ∈ ms) : Shallow limits m.2 := by
  obtain ⟨depth, low, fits⟩ := h
  exact ⟨depth - 1, Nat.le_trans (Nat.sub_le _ _) low, (Json.fits_of_mem_object fits hm).2⟩

variable {α : Type} {r : Reader α} {w : α → Json}

/-- Shallow lists and values that may be left open are read back if what is shallow in them is. -/
theorem array_write {as : List α} (issue : Issue) (reads : ∀ a, Shallow limits (w a) → r (w a) = .ok a)
    (h : Shallow limits (.array (as.map w))) : array issue r (.array (as.map w)) = .ok as :=
  array_map issue fun a ha => reads a (h.element (List.mem_map_of_mem ha))

theorem optional_write {o : Option α} (reads : ∀ a, Shallow limits (w a) → r (w a) = .ok a)
    (written : ∀ a, w a ≠ .null) (h : Shallow limits (Json.optional w o)) :
    optional r (Json.optional w o) = .ok o := by
  refine optional_optional (fun a ha => reads a ?_) written
  cases ha
  exact h

/-! ## Costs -/

theorem readCost_write (c : Cost) : readCost (writeCost c) = .ok c := by
  have checked : checkCost (c.currency, (c.amount : Int)) = .ok c := by
    simp [checkCost]
  simp [readCost, writeCost, Json.nat, Checked.check_ok checked]

/-! ## Impacts -/

theorem writeImpacts_eq_map (s : Style) (is : List Impact) :
    writeImpacts s is = is.map (writeImpact s) := by
  induction is with
  | nil => rfl
  | cons i is ih => rw [writeImpacts, ih, List.map_cons]

/-- An impact is read back if it has no more levels than the reader goes down. -/
theorem readImpactWithin_write {n most depth : Nat} (deep : depth ≤ n) (i : Impact)
    (fits : (writeImpact .full i).fits most depth = true) :
    readImpactWithin n (writeImpact .full i) = .ok i := by
  induction n generalizing depth i with
  | zero =>
    obtain rfl := Nat.le_zero.1 deep
    cases i
    cases fits
  | succ n ih =>
    obtain ⟨type, count, resource, cardResource, tag, per, city, ground, tile, options⟩ := i
    have listed := Json.fits_of_mem_object (m := ("options", .array (writeImpacts .full options)))
      fits (by simp)
    have read : tuple (readImpactWithin n) (.array (writeImpacts .full options)) = .ok options := by
      rw [writeImpacts_eq_map] at listed ⊢
      refine array_map _ fun j hj => ?_
      -- one level up is the array, and two are the object
      have inner := Json.fits_of_mem_array listed.2 (List.mem_map_of_mem hj)
      exact ih (by omega) j inner.2
    simp [readImpactWithin, writeImpact, read]

theorem readImpact_write (i : Impact) (h : Shallow limits (writeImpact .full i)) :
    readImpact limits (writeImpact .full i) = .ok i := by
  obtain ⟨depth, low, fits⟩ := h
  exact readImpactWithin_write low i fits

theorem readImpacts_write {is : List Impact} (h : Shallow limits (.array (writeImpacts .full is))) :
    readImpacts limits (.array (writeImpacts .full is)) = .ok is := by
  rw [writeImpacts_eq_map] at h ⊢
  exact array_write .tupleType readImpact_write h

/-- Every impact has a text of its own. -/
theorem plain_writeImpact : ∀ i : Impact, (writeImpact .full i).plain = true
  | ⟨type, count, resource, cardResource, tag, per, city, ground, tile, options⟩ => by
    have listed : ∀ j ∈ options, (writeImpact .full j).plain = true := fun j hj =>
      plain_writeImpact j
    simpa [writeImpact, writeImpacts_eq_map] using listed
termination_by i => i.size
decreasing_by exact Impact.size_lt_of_mem_options hj

theorem plain_writeImpacts (is : List Impact) :
    (Json.array (writeImpacts .full is)).plain = true := by
  simpa [writeImpacts_eq_map] using fun i _ => plain_writeImpact i

/-! ## Actions, effects, requirements and points -/

theorem readAction_write (a : Action) (h : Shallow limits (writeAction .full a)) :
    readAction limits (writeAction .full a) = .ok a := by
  have impacts : readImpacts limits (.array (writeImpacts .full a.impacts)) = .ok a.impacts :=
    readImpacts_write (h.member (m := ("impacts", _)) (by simp))
  have cost : optional readCost (Json.optional writeCost a.cost) = .ok a.cost :=
    optional_optional (fun c _ => readCost_write c) fun c => by simp [writeCost]
  simp [readAction, writeAction, impacts, cost]

theorem readEffect_write (e : Effect) (h : Shallow limits (writeEffect .full e)) :
    readEffect limits (writeEffect .full e) = .ok e := by
  have triggers : readImpacts limits (.array (writeImpacts .full e.triggers)) = .ok e.triggers :=
    readImpacts_write (h.member (m := ("triggers", _)) (by simp))
  have kinds : tuple term (.array (e.cardResources.map .term)) = .ok e.cardResources :=
    array_map _ fun k _ => term_term k
  simp [readEffect, writeEffect, triggers, kinds]

theorem readRequirement_write (r : Requirement) :
    readRequirement (writeRequirement .full r) = .ok r := by
  simp [readRequirement, writeRequirement]

theorem readPoints_write (p : Points) : readPoints (writePoints .full p) = .ok p := by
  simp [readPoints, writePoints]

/-! ## Cards -/

theorem checkCard_toCardText (c : Card) : checkCard c.toCardText = .ok c := by
  have made : Card.ofText c.toCardText = .ok c := by
    unfold Card.ofText
    split
    next => rfl
    next f broken => exact absurd (c.sound.symm.trans broken) nofun
  rw [checkCard, made]

theorem readCard_write (c : Card) (h : Shallow limits (writeCard .full c)) :
    readCard limits (writeCard .full c) = .ok c := by
  have tags : tuple term (.terms c.tags) = .ok c.tags := array_map _ fun t _ => term_term t
  have cost := readCost_write c.cost
  have requirements : tuple readRequirement (.array (c.requirements.map (writeRequirement .full))) =
      .ok c.requirements :=
    array_map _ fun r _ => readRequirement_write r
  have points : optional readPoints (Json.optional (writePoints .full) c.points) = .ok c.points :=
    optional_optional (fun p _ => readPoints_write p) fun p => by simp [writePoints]
  have own : Ledger.ofList c.ownProduction.entries = c.ownProduction :=
    Ledger.ofList_entries c.ownProduction
  have any : Table.ofList c.anyProduction.entries = c.anyProduction :=
    Table.ofList_entries c.anyProduction
  have impacts : readImpacts limits (.array (writeImpacts .full c.impacts)) = .ok c.impacts :=
    readImpacts_write (h.member (m := ("immediate_impacts", _)) (by simp))
  have actions : tuple (readAction limits) (.array (c.actions.map (writeAction .full))) =
      .ok c.actions :=
    array_write .tupleType readAction_write (h.member (m := ("actions", _)) (by simp))
  have effects : tuple (readEffect limits) (.array (c.effects.map (writeEffect .full))) =
      .ok c.effects :=
    array_write .tupleType readEffect_write (h.member (m := ("effects", _)) (by simp))
  have checked := checkCard_toCardText c
  simp [readCard, writeCard, writeCardText, readAmounts, tags, cost, requirements, points, own, any,
    impacts, actions, effects, Checked.check_ok checked]

/-! ## Texts -/

theorem plain_writeCost (c : Cost) : (writeCost c).plain = true := by
  simp [writeCost, Json.nat]

theorem plain_writeAction (a : Action) : (writeAction .full a).plain = true := by
  simp [writeAction, plain_writeImpacts, plain_writeCost]

theorem plain_writeEffect (e : Effect) : (writeEffect .full e).plain = true := by
  simp [writeEffect, plain_writeImpacts]

theorem plain_writeRequirement (r : Requirement) : (writeRequirement .full r).plain = true := by
  simp [writeRequirement]

theorem plain_writePoints (p : Points) : (writePoints .full p).plain = true := by
  simp [writePoints]

theorem plain_writeCard (c : Card) : (writeCard .full c).plain = true := by
  simp [writeCard, writeCardText, plain_writeCost, plain_writeRequirement, plain_writePoints,
    plain_writeImpacts, plain_writeAction, plain_writeEffect]

end Wire

end Terraforming
