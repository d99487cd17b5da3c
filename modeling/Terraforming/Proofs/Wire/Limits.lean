import Mathlib.Data.List.Induction
import Mathlib.Data.List.TakeWhile
import Mathlib.Data.Nat.Digits.Defs
import Terraforming.Proofs.Wire.Parse

/-!
# What a reader lets through

Whatever is read strictly is within the limits of the reader: an integer is as long as its digits, and
every array and object with something in it has taken one step down.  So a value that has a text at all,
in whatever layout, is one whose plain text is read back.

* `Json.fits_number` — the digits of an integer;
* `Json.fits_mono`, `Json.exists_fits` — more limits take more values, and each value is taken by some;
* `Json.reads_fitting` — values, elements and members, by induction on the steps;
* `Json.within_of_ofText?`, `Json.exists_ofText?_iff` — texts;
* `Json.eq_of_text_eq` — the plain text of a value says which value it is.
-/

namespace Terraforming.Json

open Text (digitsValue)

/-! ## Integers -/

/-- Digits are worth less than one more digit would be. -/
theorem digitsValue_lt {ds : List Char} (all : ∀ c ∈ ds, c.isDigit = true) :
    digitsValue ds < 10 ^ ds.length := by
  induction ds using List.reverseRecOn with
  | nil => decide
  | append_singleton ds c ih =>
    obtain ⟨before, last⟩ := List.forall_mem_append.1 all
    have less := ih before
    have digit : c.toNat - '0'.toNat ≤ 9 := by
      have bounds := Char.isDigit_iff_toNat.1 (last c (List.mem_singleton_self c))
      have zero : '0'.toNat = 48 := rfl
      have nine : '9'.toNat = 57 := rfl
      omega
    rw [digitsValue, List.foldl_append, List.length_append, List.length_singleton, Nat.pow_succ]
    show digitsValue ds * 10 + (c.toNat - '0'.toNat) < _
    omega

/-- An integer is written with no more digits than it was read with. -/
theorem length_toString_le {ds : List Char} (some : ds ≠ []) (all : ∀ c ∈ ds, c.isDigit = true)
    (negative : Bool) :
    (toString ((if negative then -1 else 1) * (digitsValue ds : Int))).toList.length ≤
      ds.length + negative.toNat := by
  have short : (Nat.toDigits 10 (digitsValue ds)).length ≤ ds.length :=
    Nat.toDigits_length 10 _ _ (List.length_pos_iff.2 some) (digitsValue_lt all)
  rw [toList_toString]
  cases negative with
  | false =>
    have nonneg : ¬(digitsValue ds : Int) < 0 := by omega
    simpa [nonneg] using short
  | true =>
    have size : (-(digitsValue ds : Int)).natAbs = digitsValue ds := by omega
    simp only [if_true, Int.neg_one_mul, size, Bool.toNat_true]
    split
    · exact Nat.succ_le_succ short
    · omega

theorem all_digits (cs : List Char) : ∀ c ∈ (digits cs).1, c.isDigit = true := by
  rw [digits, List.span_eq_takeWhile_dropWhile]
  exact fun c hc => List.mem_takeWhile_imp hc

/-- A number that is read fits. -/
theorem fits_number {negative : Bool} {cs rest : List Char} {j : Json} {most depth : Nat}
    (h : number .strict most negative cs = .ok (j, rest)) : j.fits most depth = true := by
  have all := all_digits cs
  unfold number at h
  generalize digits cs = spanned at h all
  obtain ⟨whole, cs⟩ := spanned
  simp only [throw_eq_error, pure_eq_ok, error_bind] at h
  split at h
  · cases h
  next proper =>
    obtain ⟨⟨fraction, cs⟩, -, h⟩ := bind_eq_ok.1 h
    obtain ⟨⟨exponent, cs⟩, -, h⟩ := bind_eq_ok.1 h
    dsimp only at h
    split at h
    · cases h
    next few =>
      split at h
      next plain =>
        cases h
        have some : whole ≠ [] := by
          rintro rfl
          exact proper rfl
        have nothing : fraction = [] := by
          simp only [Bool.and_eq_true, List.isEmpty_iff] at plain
          exact plain.1
        have length := length_toString_le some all negative
        have enough : whole.length + negative.toNat ≤ most := by
          simpa [Dialect.refusesDigits] using few
        rw [nothing, List.append_nil, fits, decide_eq_true_iff]
        exact Nat.le_trans length enough
      next => cases h; rfl

/-- So does a word. -/
theorem fits_wordOrNumber {cs rest : List Char} {j : Json} {most depth : Nat}
    (h : wordOrNumber .strict most cs = .ok (j, rest)) : j.fits most depth = true := by
  unfold wordOrNumber at h
  split at h
  next w v found =>
    cases h
    have all : ∀ w ∈ words, w.2.fits most depth = true := by simp [words, fits]
    exact all _ (List.mem_of_find?_eq_some found)
  next =>
    split at h
    · exact fits_number h
    · exact fits_number h

/-! ## Values -/

/-- What fits makes up arrays and objects that fit one step further up. -/
theorem fits_array {most depth : Nat} {xs : List Json} (each : ∀ x ∈ xs, x.fits most depth = true) :
    (array xs).fits most (depth + 1) = true := by
  simp [fits, allFit_iff.2 each]

theorem fits_object {most depth : Nat} {ms : List (String × Json)}
    (each : ∀ m ∈ ms, m.2.fits most depth = true) : (object ms).fits most (depth + 1) = true := by
  simp [fits, membersFit_iff.2 each]

/-- What fits still fits where more is taken. -/
theorem fits_mono {most most' depth depth' : Nat} (longer : most ≤ most') (deeper : depth ≤ depth') :
    ∀ j : Json, j.fits most depth = true → j.fits most' depth' = true
  | int n, h => by
    rw [fits, decide_eq_true_iff] at h ⊢
    exact Nat.le_trans h longer
  | array [], _ | object [], _ => rfl
  | array (x :: xs), h => by
    have down := Nat.lt_of_lt_of_le (fits_of_mem_array h List.mem_cons_self).1 deeper
    rw [← Nat.sub_one_add_one (Nat.ne_of_gt down)]
    refine fits_array fun y hy => ?_
    exact fits_mono longer (Nat.sub_le_sub_right deeper 1) y (fits_of_mem_array h hy).2
  | object (m :: ms), h => by
    have down := Nat.lt_of_lt_of_le (fits_of_mem_object h List.mem_cons_self).1 deeper
    rw [← Nat.sub_one_add_one (Nat.ne_of_gt down)]
    refine fits_object fun n hn => ?_
    exact fits_mono longer (Nat.sub_le_sub_right deeper 1) n.2 (fits_of_mem_object h hn).2
  | null, _ | bool _, _ | decimal _ _, _ | notFinite, _ | string _, _ | garbled, _ => rfl
termination_by j => sizeOf j
decreasing_by
  · exact sizeOf_lt_of_mem_array hy
  · exact sizeOf_lt_of_mem_object hn

/-- What fits for each of some values fits for all of them together. -/
theorem exists_fits_all {xs : List Json}
    (each : ∀ x ∈ xs, ∃ most depth, x.fits most depth = true) :
    ∃ most depth, ∀ x ∈ xs, x.fits most depth = true := by
  induction xs with
  | nil => exact ⟨0, 0, List.forall_mem_nil _⟩
  | cons x xs ih =>
    obtain ⟨⟨most, depth, first⟩, each⟩ := List.forall_mem_cons.1 each
    obtain ⟨most', depth', rest⟩ := ih each
    refine ⟨max most most', max depth depth', List.forall_mem_cons.2 ⟨?_, fun y hy => ?_⟩⟩
    · exact fits_mono (Nat.le_max_left _ _) (Nat.le_max_left _ _) x first
    · exact fits_mono (Nat.le_max_right _ _) (Nat.le_max_right _ _) y (rest y hy)

/-- Every value fits somewhere. -/
theorem exists_fits : ∀ j : Json, ∃ most depth, j.fits most depth = true
  | int n => ⟨_, 0, decide_eq_true (Nat.le_refl _)⟩
  | array xs => by
    obtain ⟨most, depth, all⟩ := exists_fits_all fun x hx => exists_fits x
    exact ⟨most, depth + 1, fits_array all⟩
  | object ms => by
    have each : ∀ x ∈ ms.map (·.2), ∃ most depth, x.fits most depth = true :=
      List.forall_mem_map.2 fun m hm => exists_fits m.2
    obtain ⟨most, depth, all⟩ := exists_fits_all each
    exact ⟨most, depth + 1, fits_object (List.forall_mem_map.1 all)⟩
  | null | bool _ | decimal _ _ | notFinite | string _ | garbled => ⟨0, 0, rfl⟩
termination_by j => sizeOf j
decreasing_by
  · exact sizeOf_lt_of_mem_array hx
  · exact sizeOf_lt_of_mem_object hm

/-- What was read, if anything was, is nested at most `depth` deep. -/
def Fitting (most depth : Nat) (x : Except Unread (WithRest Json)) : Prop :=
  ∀ j rest, x = .ok (j, rest) → j.fits most depth = true

/-- What is read in any number of steps fits: a value where it stands, and behind what was read of an
array or an object and fits, the whole of it one step further up. -/
theorem reads_fitting (most n : Nat) :
    (∀ depth cs, Fitting most depth (value .strict most n depth cs)) ∧
    (∀ depth read cs, (∀ x ∈ read, x.fits most depth = true) →
      Fitting most (depth + 1) (elements .strict most n depth read cs)) ∧
    ∀ depth read cs, (∀ m ∈ read, m.2.fits most depth = true) →
      Fitting most (depth + 1) (members .strict most n depth read cs) := by
  induction n with
  | zero => exact ⟨fun _ _ => nofun, fun _ _ _ _ => nofun, fun _ _ _ _ => nofun⟩
  | succ n ih =>
    obtain ⟨values, rests, objects⟩ := ih
    refine ⟨fun depth cs j rest h => ?_, fun depth read cs fits j rest h => ?_,
      fun depth read cs fits j rest h => ?_⟩
    · rw [value] at h
      split at h
      next =>
        obtain ⟨⟨s, cs⟩, -, h⟩ := bind_eq_ok.1 h
        cases h
        unfold ofScanned
        split <;> rfl
      next =>
        split at h
        · cases h
          rfl
        · cases h
        · exact rests _ [] _ (List.forall_mem_nil _) j rest h
      next =>
        split at h
        · cases h
          rfl
        · cases h
        · exact objects _ [] _ (List.forall_mem_nil _) j rest h
      next => exact fits_wordOrNumber h
    · rw [elements] at h
      obtain ⟨⟨x, cs⟩, first, h⟩ := bind_eq_ok.1 h
      have more : ∀ y ∈ x :: read, y.fits most depth = true :=
        List.forall_mem_cons.2 ⟨values depth _ x _ first, fits⟩
      dsimp only at h
      split at h
      · exact rests depth (x :: read) _ more j rest h
      · cases h
        exact fits_array fun y hy => more y (List.mem_reverse.1 hy)
      · cases h
    · rw [members] at h
      split at h
      next =>
        obtain ⟨⟨name, cs⟩, -, h⟩ := bind_eq_ok.1 h
        dsimp only at h
        split at h
        next =>
          obtain ⟨⟨x, cs⟩, first, h⟩ := bind_eq_ok.1 h
          have more : ∀ m ∈ (name.text, x) :: read, m.2.fits most depth = true :=
            List.forall_mem_cons.2 ⟨values depth _ x _ first, fits⟩
          dsimp only at h
          split at h
          · exact objects depth _ _ more j rest h
          · cases h
            exact fits_object fun m hm => more m (List.mem_reverse.1 hm)
          · cases h
        next => cases h
      next => cases h

/-! ## Texts -/

variable {limits : Limits}

/-- The value of a text is within the limits. -/
theorem within_of_ofText? {s : String} {j : Json} (h : ofText? s limits = some j) :
    j.within limits = true := by
  have read : parse .strict s limits = .ok j := toOption_eq_some.1 h
  unfold parse at read
  obtain ⟨⟨v, rest⟩, front, read⟩ := bind_eq_ok.1 read
  dsimp only at read
  split at read
  · cases read
    exact (reads_fitting _ _).1 _ _ _ _ front
  · cases read

/-- **A plain value has a text that is read back** exactly when it is within the limits. -/
theorem exists_ofText?_iff {j : Json} (plain : j.plain = true) :
    (∃ s, ofText? s limits = some j) ↔ j.within limits = true := by
  constructor
  · rintro ⟨s, h⟩
    exact within_of_ofText? h
  · intro within
    exact ⟨j.text, by rw [ofText?_text plain, if_pos within]⟩

/-- Values with the same text are the same, because some reader takes the text. -/
theorem eq_of_text_eq {j j' : Json} (plain : j.plain = true) (plain' : j'.plain = true)
    (same : j.text = j'.text) : j = j' := by
  obtain ⟨most, depth, fits⟩ := exists_fits j
  have within : j.within { depth, digits := most } = true := fits
  have read := ofText?_text plain { depth, digits := most }
  rw [same, ofText?_text plain', if_pos within] at read
  split at read
  · exact (Option.some.inj read).symm
  · cases read

end Terraforming.Json
