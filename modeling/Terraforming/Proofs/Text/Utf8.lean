import Mathlib.Data.List.Basic
import Mathlib.Tactic.Common
import Terraforming.Proofs.Data.Except
import Terraforming.Text.Utf8

/-!
# What bytes are read as

A character has one to four bytes, by the size of its code.  Reading goes byte by byte, and a
character that is open has a range for the next byte: the ranges leave out the longer spellings of a
code that has a shorter one, the surrogates, and the codes that are no characters.  Hence bytes are
read as the text that they are the bytes of, and as no other.

* `decodedFrom_bytes` — the bytes of a character are read as that character;
* `Completes`, `ofLead?_completes` — every way to go on with an open character leads to one, whose
  bytes are those that were read;
* `decoded_eq_ok_iff` — what bytes are read as.
-/

namespace Terraforming.Text

/-! ## The bytes of a character -/

theorem toNat_ofNat_of_valid {n : Nat} (valid : n < 0xd800 ∨ 0xdfff < n ∧ n < 0x110000) :
    (Char.ofNat n).toNat = n := by
  rw [Char.ofNat, dif_pos valid]
  rfl

/-- The bytes of a code. -/
def bytesOf (n : Nat) : List Nat :=
  if n ≤ 0x7f then [n]
  else if n ≤ 0x7ff then [n / 0x40 + 0xc0, n % 0x40 + 0x80]
  else if n ≤ 0xffff then [n / 0x1000 + 0xe0, n / 0x40 % 0x40 + 0x80, n % 0x40 + 0x80]
  else [n / 0x40000 + 0xf0, n / 0x1000 % 0x40 + 0x80, n / 0x40 % 0x40 + 0x80, n % 0x40 + 0x80]

theorem toNat_ofNat_of_le {n : Nat} (h : n ≤ 0xff) : (UInt8.ofNat n).toNat = n :=
  UInt8.toNat_ofNat_of_lt' (Nat.lt_succ_of_le h)

theorem map_utf8EncodeChar (c : Char) :
    (String.utf8EncodeChar c).map UInt8.toNat = bytesOf c.toNat := by
  have top : c.toNat < 0x110000 := by
    rcases c.valid with h | h
    · exact Nat.lt_trans h (by decide)
    · exact h.2
  have code : c.val.toNat = c.toNat := rfl
  simp only [String.utf8EncodeChar, bytesOf, code]
  split
  · simp only [List.map_cons, List.map_nil]
    rw [toNat_ofNat_of_le (by omega)]
  · split
    · simp only [List.map_cons, List.map_nil]
      rw [toNat_ofNat_of_le (by omega), toNat_ofNat_of_le (by omega)]
      congr 2; omega
    · split
      · simp only [List.map_cons, List.map_nil]
        rw [toNat_ofNat_of_le (by omega), toNat_ofNat_of_le (by omega),
          toNat_ofNat_of_le (by omega)]
        congr 2; omega
      · simp only [List.map_cons, List.map_nil]
        rw [toNat_ofNat_of_le (by omega), toNat_ofNat_of_le (by omega),
          toNat_ofNat_of_le (by omega), toNat_ofNat_of_le (by omega)]
        congr 2; omega

/-- The bytes of a text. -/
theorem map_toUTF8 (s : String) :
    s.toUTF8.data.toList.map UInt8.toNat = s.toList.flatMap fun c => bytesOf c.toNat := by
  have encoded : s.toUTF8.data.toList = s.toList.flatMap String.utf8EncodeChar := by
    conv_lhs => rw [← String.ofList_toList (s := s), String.toUTF8_eq_toByteArray]
    rw [String.toByteArray_ofList, List.utf8Encode, List.data_toByteArray]
  rw [encoded, List.map_flatMap]
  exact List.flatMap_congr fun c _ => map_utf8EncodeChar c

/-! ## Reading the bytes of a text -/

section

variable {position : Nat} {done : List Char} {bs : List Nat}

theorem between_iff {low high b : Nat} :
    (decide (low ≤ b) && decide (b ≤ high)) = true ↔ low ≤ b ∧ b ≤ high := by
  rw [Bool.and_eq_true, decide_eq_true_eq, decide_eq_true_eq]

theorem decodedFrom_lead {b : Nat} {rest : PartialChar} (lead : PartialChar.ofLead? b = some rest) :
    decodedFrom position done none (b :: bs) =
      decodedFrom (position + 1) done (some ⟨b, 1, rest⟩) bs := by
  have high : ¬b < 0x80 := by
    intro low
    rw [PartialChar.ofLead?, if_neg (by rw [between_iff]; omega),
      if_neg (by rw [between_iff]; omega), if_neg (by rw [between_iff]; omega)] at lead
    cases lead
  rw [decodedFrom, if_neg high, lead]

/-- The next byte of an open character ends it, if it is the last one. -/
theorem decodedFrom_last {o : OpenChar} {b : Nat} (last : o.rest.left = 1)
    (low : o.rest.low ≤ b) (high : b ≤ o.rest.high) :
    decodedFrom position done (some o) (b :: bs) =
      decodedFrom (position + 1) (Char.ofNat (o.rest.value * 0x40 + (b - 0x80)) :: done) none
        bs := by
  rw [decodedFrom, if_pos (between_iff.2 ⟨low, high⟩)]
  exact if_pos last

theorem decodedFrom_next {o : OpenChar} {b : Nat} (more : o.rest.left ≠ 1)
    (low : o.rest.low ≤ b) (high : b ≤ o.rest.high) :
    decodedFrom position done (some o) (b :: bs) =
      decodedFrom (position + 1) done (some ⟨o.lead, o.count + 1,
        ⟨o.rest.left - 1, 0x80, 0xbf, o.rest.value * 0x40 + (b - 0x80)⟩⟩) bs := by
  rw [decodedFrom, if_pos (between_iff.2 ⟨low, high⟩)]
  exact if_neg more

/-- The bytes of a character are read as that character. -/
theorem decodedFrom_bytes (c : Char) :
    decodedFrom position done none (bytesOf c.toNat ++ bs) =
      decodedFrom (position + (bytesOf c.toNat).length) (c :: done) none bs := by
  have valid : c.toNat < 0xd800 ∨ 0xdfff < c.toNat ∧ c.toNat < 0x110000 := c.valid
  have same : ∀ n, n = c.toNat → Char.ofNat n = c := fun n hn => hn ▸ Char.ofNat_toNat c
  unfold bytesOf
  split
  next ascii =>
    rw [List.singleton_append, decodedFrom, if_pos (by omega), same _ rfl]
    rfl
  · split
    next two =>
      have lead : PartialChar.ofLead? (c.toNat / 0x40 + 0xc0) =
          some ⟨1, 0x80, 0xbf, c.toNat / 0x40⟩ := by
        rw [PartialChar.ofLead?, if_pos (by rw [between_iff]; omega), Nat.add_sub_cancel]
      rw [List.cons_append, List.singleton_append, decodedFrom_lead lead,
        decodedFrom_last rfl (by simp) (by simp; omega), same _ (by simp; omega)]
      rfl
    · split
      next three =>
        have lead : PartialChar.ofLead? (c.toNat / 0x1000 + 0xe0) =
            some ⟨2, if c.toNat / 0x1000 + 0xe0 = 0xe0 then 0xa0 else 0x80,
              if c.toNat / 0x1000 + 0xe0 = 0xed then 0x9f else 0xbf, c.toNat / 0x1000⟩ := by
          rw [PartialChar.ofLead?, if_neg (by rw [between_iff]; omega),
            if_pos (by rw [between_iff]; omega), Nat.add_sub_cancel]
        rw [List.cons_append, List.cons_append, List.singleton_append, decodedFrom_lead lead,
          decodedFrom_next (by simp) (by dsimp only; split <;> omega)
            (by dsimp only; split <;> omega),
          decodedFrom_last rfl (by simp) (by dsimp only; omega), same _ (by dsimp only; omega)]
        rfl
      next four =>
        have lead : PartialChar.ofLead? (c.toNat / 0x40000 + 0xf0) =
            some ⟨3, if c.toNat / 0x40000 + 0xf0 = 0xf0 then 0x90 else 0x80,
              if c.toNat / 0x40000 + 0xf0 = 0xf4 then 0x8f else 0xbf, c.toNat / 0x40000⟩ := by
          rw [PartialChar.ofLead?, if_neg (by rw [between_iff]; omega),
            if_neg (by rw [between_iff]; omega), if_pos (by rw [between_iff]; omega),
            Nat.add_sub_cancel]
        rw [List.cons_append, List.cons_append, List.cons_append, List.singleton_append,
          decodedFrom_lead lead,
          decodedFrom_next (by simp) (by dsimp only; split <;> omega)
            (by dsimp only; split <;> omega),
          decodedFrom_next (by simp) (by simp) (by dsimp only; omega),
          decodedFrom_last rfl (by simp) (by dsimp only; omega), same _ (by dsimp only; omega)]
        rfl

theorem decodedFrom_text (cs : List Char) :
    decodedFrom position done none (cs.flatMap fun c => bytesOf c.toNat) =
      .ok (done.reverse ++ cs) := by
  induction cs generalizing position done with
  | nil =>
    rw [List.append_nil]
    rfl
  | cons c cs ih =>
    rw [List.flatMap_cons, decodedFrom_bytes, ih, List.reverse_cons, List.append_assoc]
    rfl

end

/-! ## Which bytes are read -/

/-- Bytes are open: however they go on, `left` more of them make a character of which all of them
are the bytes.  The first of those is between `low` and `high`. -/
def Completes (read : List Nat) (low high value : Nat) : Nat → Prop
  | 0 => False
  | 1 => ∀ b, low ≤ b → b ≤ high →
      bytesOf (Char.ofNat (value * 0x40 + (b - 0x80))).toNat = read ++ [b]
  | left + 2 => ∀ b, low ≤ b → b ≤ high →
      Completes (read ++ [b]) 0x80 0xbf (value * 0x40 + (b - 0x80)) (left + 1)

/-- A first byte that is read is the beginning of a character. -/
theorem ofLead?_completes {b : Nat} {rest : PartialChar}
    (lead : PartialChar.ofLead? b = some rest) :
    Completes [b] rest.low rest.high rest.value rest.left := by
  unfold PartialChar.ofLead? at lead
  split at lead
  next two =>
    cases lead
    rw [between_iff] at two
    intro b' low high
    dsimp only at low high ⊢
    rw [toNat_ofNat_of_valid (by omega), bytesOf, if_neg (by omega), if_pos (by omega)]
    simp only [List.cons_append, List.nil_append, List.cons.injEq, and_true]
    omega
  next =>
    split at lead
    next three =>
      cases lead
      rw [between_iff] at three
      intro b' low high b'' low' high'
      dsimp only at low high ⊢
      have bounds : (b = 0xe0 → 0xa0 ≤ b') ∧ (b = 0xed → b' ≤ 0x9f) ∧ 0x80 ≤ b' ∧ b' ≤ 0xbf := by
        split at low <;> split at high <;> omega
      rw [toNat_ofNat_of_valid (by omega), bytesOf, if_neg (by omega), if_neg (by omega),
        if_pos (by omega)]
      simp only [List.cons_append, List.nil_append, List.cons.injEq, and_true]
      omega
    next =>
      split at lead
      next four =>
        cases lead
        rw [between_iff] at four
        intro b₂ low high b₃ low' high' b₄ low'' high''
        dsimp only at low high ⊢
        have bounds : (b = 0xf0 → 0x90 ≤ b₂) ∧ (b = 0xf4 → b₂ ≤ 0x8f) ∧ 0x80 ≤ b₂ ∧ b₂ ≤ 0xbf := by
          split at low <;> split at high <;> omega
        rw [toNat_ofNat_of_valid (by omega), bytesOf, if_neg (by omega), if_neg (by omega),
          if_neg (by omega)]
        simp only [List.cons_append, List.nil_append, List.cons.injEq, and_true]
        omega
      next => cases lead

/-- The bytes of the character that is open. -/
def Pending (read : List Nat) : Option OpenChar → Prop
  | none => read = []
  | some o => Completes read o.rest.low o.rest.high o.rest.value o.rest.left

theorem pending_none : Pending [] none := rfl

/-- The last byte of an open character makes it the one with the bytes that were read. -/
theorem Pending.last {read : List Nat} {o : OpenChar} {b : Nat} (pending : Pending read (some o))
    (last : o.rest.left = 1) (within : o.rest.low ≤ b ∧ b ≤ o.rest.high) :
    bytesOf (Char.ofNat (o.rest.value * 0x40 + (b - 0x80))).toNat = read ++ [b] := by
  simp only [Pending, last] at pending
  exact pending b within.1 within.2

/-- Any other byte leaves it open. -/
theorem Pending.more {read : List Nat} {o : OpenChar} {b : Nat} (pending : Pending read (some o))
    (more : o.rest.left ≠ 1) (within : o.rest.low ≤ b ∧ b ≤ o.rest.high) :
    Pending (read ++ [b]) (some ⟨o.lead, o.count + 1,
      ⟨o.rest.left - 1, 0x80, 0xbf, o.rest.value * 0x40 + (b - 0x80)⟩⟩) := by
  simp only [Pending] at pending ⊢
  match hl : o.rest.left, pending with
  | 1, _ => exact absurd hl more
  | left + 2, pending => exact pending b within.1 within.2

/-- What is read is the text of all bytes: of the characters that are done, of the open one, and of
those to come. -/
theorem bytes_of_decodedFrom {position : Nat} {done cs : List Char} {open? : Option OpenChar}
    {read bs : List Nat} (pending : Pending read open?)
    (h : decodedFrom position done open? bs = .ok cs) :
    (cs.flatMap fun c => bytesOf c.toNat) =
      (done.reverse.flatMap fun c => bytesOf c.toNat) ++ read ++ bs := by
  induction bs generalizing position done open? read with
  | nil =>
    cases open? with
    | none =>
      obtain rfl := pending
      cases h
      simp
    | some o => cases h
  | cons b bs ih =>
    cases open? with
    | none =>
      obtain rfl := pending
      rw [decodedFrom] at h
      split at h
      next ascii =>
        have code : (Char.ofNat b).toNat = b := toNat_ofNat_of_valid (.inl (by omega))
        have bytes : bytesOf b = [b] := if_pos (by omega)
        rw [ih pending_none h]
        simp [code, bytes]
      next =>
        split at h
        next rest lead =>
          have begun : Pending [b] (some ⟨b, 1, rest⟩) := ofLead?_completes lead
          rw [ih begun h]
          simp
        next => cases h
    | some o =>
      rw [decodedFrom] at h
      split at h
      next within =>
        rw [between_iff] at within
        dsimp only at h
        split at h
        next last =>
          rw [ih pending_none h]
          simp [pending.last last within]
        next more =>
          rw [ih (pending.more more within) h]
          simp
      next => cases h

/-- **Bytes are read** as the text that they are the bytes of, and as no other. -/
theorem decoded_eq_ok_iff {bytes : List UInt8} {s : String} :
    decoded bytes = .ok s ↔ bytes = s.toUTF8.data.toList := by
  constructor
  · intro h
    obtain ⟨cs, read, rfl⟩ := map_eq_ok.1 h
    have spelled := bytes_of_decodedFrom pending_none read
    have same : bytes.map UInt8.toNat = (String.ofList cs).toUTF8.data.toList.map UInt8.toNat := by
      rw [map_toUTF8, String.toList_ofList, spelled]
      simp
    exact List.map_injective_iff.2 (fun _ _ => UInt8.toNat.inj) same
  · rintro rfl
    rw [decoded, map_toUTF8, decodedFrom_text]
    exact congrArg Except.ok (String.ofList_toList (s := s))

end Terraforming.Text
