import Terraforming.Proofs.Data.Table
import Terraforming.Proofs.Wire.Cards
import Terraforming.Wire.Games

/-!
# Boards and operations, read back

Locations, spaces and operations that are written in full are read back as they were.
-/

namespace Terraforming

instance : Vocabulary.Faithful Designation := ⟨fun a => by cases a <;> decide +kernel⟩

instance : Vocabulary.Faithful Site := ⟨fun a => by cases a <;> decide +kernel⟩

instance : Vocabulary.Faithful OperationType := ⟨fun a => by cases a <;> decide +kernel⟩

namespace Wire

open Reader

/-! ## Locations -/

theorem readHex_write (h : Hex) : readHex (writeHexFull h) = .ok h := by
  simp [readHex, writeHexFull]

theorem readLocation_write (l : Location) : readLocation (writeLocationFull l) = .ok l := by
  cases l with
  | onMars h =>
    have hex : optional readHex (writeHexFull h) = .ok (some h) :=
      optional_optional (o := some h) (fun h _ => readHex_write h) nofun
    have checked : checkLocation (some h, none) = .ok (.onMars h) := rfl
    simp [readLocation, writeLocationFull, hex, Checked.check_ok checked]
  | offMars s =>
    have site : optional term (.term s) = .ok (some s) := optional_term (some s)
    have checked : checkLocation (none, some s) = .ok (.offMars s) := rfl
    simp [readLocation, writeLocationFull, site, Checked.check_ok checked]

/-! ## Spaces -/

variable {limits : Json.Limits}

theorem readSpace_write (p : Space) (h : Shallow limits (writeSpace .full p)) :
    readSpace limits (writeSpace .full p) = .ok p := by
  have location := readLocation_write p.location
  have designations : array .setType term (.terms p.designations.keys) = .ok p.designations.keys :=
    array_map _ fun d _ => term_term d
  have sites : array .setType term (.array (p.sites.keys.map .term)) = .ok p.sites.keys :=
    array_map _ fun s _ => term_term s
  have bonuses : readImpacts limits (.array (writeImpacts .full p.bonuses)) = .ok p.bonuses :=
    readImpacts_write (h.member (m := ("placement_bonus", _)) (by simp))
  simp [readSpace, writeSpace, writeLocation, location, designations, sites, bonuses,
    KeySet.ofList_keys]

/-! ## Operations -/

theorem readOperation_write (o : Operation) (h : Shallow limits (writeOperation .full o)) :
    readOperation limits (writeOperation .full o) = .ok o := by
  have card : optional (readCard limits) (Json.optional (writeCard .full) o.card) = .ok o.card :=
    optional_write readCard_write (fun c => by simp [writeCard, writeCardText])
      (h.member (m := ("card", Json.optional (writeCard .full) o.card)) (by simp))
  have cards : tuple (readCard limits) (.array (o.cards.map (writeCard .full))) = .ok o.cards :=
    array_write .tupleType readCard_write (h.member (m := ("cards", _)) (by simp))
  have location : optional readLocation (Json.optional (writeLocation .full) o.location) =
      .ok o.location :=
    optional_optional (fun l _ => readLocation_write l) fun l => by
      cases l <;> simp [writeLocation, writeLocationFull]
  have effect : optional (readEffect limits) (Json.optional (writeEffect .full) o.effect) =
      .ok o.effect :=
    optional_write readEffect_write (fun e => by simp [writeEffect])
      (h.member (m := ("effect", Json.optional (writeEffect .full) o.effect)) (by simp))
  simp [readOperation, writeOperation, card, cards, location, effect]

/-! ## Texts -/

theorem plain_writeHexFull (h : Hex) : (writeHexFull h).plain = true := by
  simp [writeHexFull]

theorem plain_writeLocationFull (l : Location) : (writeLocationFull l).plain = true := by
  cases l <;> simp [writeLocationFull, plain_writeHexFull]

theorem plain_writeSpace (p : Space) : (writeSpace .full p).plain = true := by
  simp [writeSpace, writeLocation, plain_writeLocationFull, plain_writeImpacts]

theorem plain_writeOperation (o : Operation) : (writeOperation .full o).plain = true := by
  simp [writeOperation, writeLocation, plain_writeLocationFull, plain_writeCard, plain_writeEffect]

end Wire

end Terraforming
