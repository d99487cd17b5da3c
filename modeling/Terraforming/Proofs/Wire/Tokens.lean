import Mathlib.Data.List.TakeDrop
import Mathlib.Tactic.SplitIfs
import Terraforming.Proofs.Data.Except
import Terraforming.Wire.Parse

/-!
# Tokens

Strings and integers are read back as they were written: a string character by character, each
through its escape, and an integer digit by digit, unless it has more digits than the reader takes.

* `Json.stringRest_chars` — the characters of a string between its quotes;
* `Json.number_digits` — the digits of an integer.
-/

namespace Terraforming.Json

open Text (digitsValue hexDigit? hex)

variable {d : Dialect}

/-! ## Hexadecimal digits -/

/-- The last digit stands behind those of the rest. -/
theorem toList_hex_succ {k : Nat} (h : 0 < k) (n : Nat) :
    (hex (k + 1) n).toList = (hex k (n / 16)).toList ++ [Nat.digitChar (n % 16)] := by
  simp only [hex, String.toList_ofList]
  by_cases small : n < 16
  · have zeros : List.replicate (k - 1) '0' ++ ['0'] = List.replicate k '0' := by
      rw [← List.replicate_succ', Nat.sub_add_cancel h]
    rw [Nat.toDigits_of_lt_base small, Nat.div_eq_of_lt small, Nat.toDigits_zero,
      Nat.mod_eq_of_lt small]
    simp [zeros]
  · rw [Nat.toDigits_of_base_le (by decide) (Nat.le_of_not_lt small), List.length_append,
      ← List.append_assoc]
    congr 3
    simp

theorem hexDigit?_digitChar : ∀ m < 16, hexDigit? (Nat.digitChar m) = some m := by decide

/-- Four digits are read back. -/
theorem hex4?_hex {n : Nat} (h : n < 0x10000) :
    ∃ a b c e, (hex 4 n).toList = [a, b, c, e] ∧ hex4? a b c e = some n := by
  have first : (hex 1 (n / 16 / 16 / 16)).toList = [Nat.digitChar (n / 16 / 16 / 16)] := by
    have small : n / 16 / 16 / 16 < 16 := by omega
    simp [hex, Nat.toDigits_of_lt_base small]
  refine ⟨Nat.digitChar (n / 16 / 16 / 16), Nat.digitChar (n / 16 / 16 % 16),
    Nat.digitChar (n / 16 % 16), Nat.digitChar (n % 16), ?_, ?_⟩
  · rw [toList_hex_succ (by decide), toList_hex_succ (by decide), toList_hex_succ (by decide), first]
    rfl
  · simp only [hex4?, hexDigit?_digitChar _ (show n / 16 / 16 / 16 < 16 by omega),
      hexDigit?_digitChar _ (Nat.mod_lt _ (show 0 < 16 by decide)), Option.bind_eq_bind,
      Option.bind_some, Option.pure_def, Option.some.injEq]
    omega

/-! ## Strings -/

/-- A character is no half of a pair, and there is a last one. -/
theorem bounds_char (c : Char) : (c.toNat < 0xd800 ∨ 0xdfff < c.toNat) ∧ c.toNat < 0x110000 := by
  have valid : c.toNat < 0xd800 ∨ 0xdfff < c.toNat ∧ c.toNat < 0x110000 := c.valid
  omega

namespace Scanned

/-- Characters that were read, with nothing open. -/
def ofRead (read : List Char) : Scanned := { read }

@[simp] theorem char_ofRead (read : List Char) (c : Char) :
    (ofRead read).char c = ofRead (c :: read) := rfl

@[simp] theorem settle_ofRead (read : List Char) : (ofRead read).settle = ofRead read := rfl

/-- A character that fits into sixteen bits. -/
theorem unit_ofRead (read : List Char) {c : Char} (h : c.toNat < 0x10000) :
    (ofRead read).unit c.toNat = ofRead (c :: read) := by
  have alone := (bounds_char c).1
  have high : isHigh c.toNat = false := by
    simp only [isHigh, Bool.and_eq_false_iff, decide_eq_false_iff_not]
    omega
  have low : isLow c.toNat = false := by
    simp only [isLow, Bool.and_eq_false_iff, decide_eq_false_iff_not]
    omega
  simp [unit, single, ofRead, high, low]

/-- A character that takes two halves. -/
theorem unit_unit_ofRead (read : List Char) {c : Char} (h : 0x10000 ≤ c.toNat) :
    ((ofRead read).unit (0xd800 + (c.toNat - 0x10000) / 0x400)).unit
      (0xdc00 + (c.toNat - 0x10000) % 0x400) = ofRead (c :: read) := by
  have last := (bounds_char c).2
  have high : isHigh (0xd800 + (c.toNat - 0x10000) / 0x400) = true := by
    simp only [isHigh, Bool.and_eq_true, decide_eq_true_eq]
    omega
  have low : isLow (0xdc00 + (c.toNat - 0x10000) % 0x400) = true := by
    simp only [isLow, Bool.and_eq_true, decide_eq_true_eq]
    omega
  have whole : 0x10000 + (0xd800 + (c.toNat - 0x10000) / 0x400 - 0xd800) * 0x400 +
      (0xdc00 + (c.toNat - 0x10000) % 0x400 - 0xdc00) = c.toNat := by
    omega
  have first : (ofRead read).unit (0xd800 + (c.toNat - 0x10000) / 0x400) =
      { ofRead read with high := some (0xd800 + (c.toNat - 0x10000) / 0x400) } := by
    simp [unit, single, ofRead, high]
  rw [first]
  simp only [unit, low, if_true, whole, Char.ofNat_toNat]
  rfl

end Scanned

/-- An escape is read as its sixteen bits. -/
theorem stringRest_escape16 (s : Scanned) {n : Nat} (h : n < 0x10000) (cs : List Char) :
    stringRest d s ((escape16 n).toList ++ cs) = stringRest d (s.unit n) cs := by
  obtain ⟨a, b, c, e, digits, read⟩ := hex4?_hex h
  have text : (escape16 n).toList = ['\\', 'u', a, b, c, e] := by
    simp [escape16, digits]
  simp [text, stringRest, read]

/-- A character is read back through its escape. -/
theorem stringRest_charText (read : List Char) (c : Char) (cs : List Char) :
    stringRest d (.ofRead read) ((charText c).toList ++ cs) =
      stringRest d (.ofRead (c :: read)) cs := by
  unfold charText
  split_ifs with quote backslash newLine carriage tab back feed plain short
  · simp [quote, stringRest, escaped?]
  · simp [backslash, stringRest, escaped?]
  · simp [newLine, stringRest, escaped?]
  · simp [carriage, stringRest, escaped?]
  · simp [tab, stringRest, escaped?]
  · obtain rfl : c = Char.ofNat 8 := by rw [← back, Char.ofNat_toNat]
    simp [stringRest, escaped?]
  · obtain rfl : c = Char.ofNat 12 := by rw [← feed, Char.ofNat_toNat]
    simp [stringRest, escaped?]
  · have visible : ¬c.toNat < 0x20 := by simp at plain; omega
    simp [stringRest, backslash, visible]
  · rw [stringRest_escape16 _ short, Scanned.unit_ofRead read short]
  · have last := (bounds_char c).2
    dsimp only
    rw [String.toList_append, List.append_assoc, stringRest_escape16 _ (by omega),
      stringRest_escape16 _ (by omega), Scanned.unit_unit_ofRead read (Nat.le_of_not_lt short)]

/-- The characters of a text are read back up to the quote behind them. -/
theorem stringRest_chars (read text cs : List Char) :
    stringRest d (.ofRead read) (text.flatMap (fun c => (charText c).toList) ++ '"' :: cs) =
      .ok (.ofRead (text.reverse ++ read), cs) := by
  induction text generalizing read with
  | nil => rfl
  | cons c text ih =>
    rw [List.flatMap_cons, List.append_assoc, stringRest_charText, ih]
    simp

theorem toList_stringText (s : String) : (stringText s).toList =
    '"' :: (s.toList.flatMap (fun c => (charText c).toList) ++ ['"']) := by
  simp [stringText, String.toList_join, List.flatMap_map]

/-- A string is read back behind its opening quote. -/
theorem stringRest_stringText (s : String) (cs : List Char) :
    ∃ body, (stringText s).toList ++ cs = '"' :: body ∧
      stringRest d {} body = .ok (.ofRead s.toList.reverse, cs) := by
  refine ⟨s.toList.flatMap (fun c => (charText c).toList) ++ '"' :: cs, ?_, ?_⟩
  · simp [toList_stringText]
  · rw [← List.append_nil s.toList.reverse]
    exact stringRest_chars [] s.toList cs

@[simp] theorem text_ofRead (s : String) : (Scanned.ofRead s.toList.reverse).text = s := by
  simp [Scanned.text, Scanned.ofRead]

/-! ## Integers -/

/-- No numeral goes on with these characters. -/
def Ended (cs : List Char) : Prop := ∀ c ∈ cs.head?, c = ',' ∨ c = ']' ∨ c = '\x7d'

theorem span_append {p : Char → Bool} {xs rest : List Char} (all : ∀ c ∈ xs, p c = true)
    (none : ∀ c ∈ rest.head?, p c = false) : (xs ++ rest).span p = (xs, rest) := by
  have stops : rest.takeWhile p = [] ∧ rest.dropWhile p = rest := by
    cases rest with
    | nil => exact ⟨rfl, rfl⟩
    | cons c rest =>
      have stop : p c = false := none c rfl
      simp [stop]
  rw [List.span_eq_takeWhile_dropWhile, List.takeWhile_append_of_pos all,
    List.dropWhile_append_of_pos all, stops.1, stops.2, List.append_nil]

theorem Ended.not_isDigit {cs : List Char} (ended : Ended cs) :
    ∀ c ∈ cs.head?, c.isDigit = false := by
  intro c hc
  rcases ended c hc with rfl | rfl | rfl <;> rfl

/-- The digits in front of what ends a numeral. -/
theorem digits_append {cs : List Char} (ended : Ended cs) (n : Nat) :
    digits (Nat.toDigits 10 n ++ cs) = (Nat.toDigits 10 n, cs) :=
  span_append (fun _ hc => Nat.isDigit_of_mem_toDigits (by decide) (by decide) hc) ended.not_isDigit

theorem fraction_of_ended {cs : List Char} (ended : Ended cs) : fraction cs = .ok ([], cs) := by
  cases cs with
  | nil => rfl
  | cons c cs => rcases ended c rfl with rfl | rfl | rfl <;> rfl

theorem exponent_of_ended {cs : List Char} (ended : Ended cs) : exponent cs = .ok (none, cs) := by
  cases cs with
  | nil => rfl
  | cons c cs => rcases ended c rfl with rfl | rfl | rfl <;> rfl

/-- No zeros stand in front, unless there is nothing else. -/
theorem head?_toDigits_ne_zero {n : Nat} (h : n ≠ 0) : (Nat.toDigits 10 n).head? ≠ some '0' := by
  induction n using Nat.strongRecOn with
  | _ n ih =>
    by_cases small : n < 10
    · rw [Nat.toDigits_of_lt_base small]
      simpa using h
    · rw [Nat.toDigits_of_base_le (by decide) (Nat.le_of_not_lt small),
        List.head?_append, Option.or_of_isSome (by simp [Nat.toDigits_ne_nil])]
      exact ih (n / 10) (by omega) (by omega)

theorem digitsValue_toDigits (n : Nat) : digitsValue (Nat.toDigits 10 n) = n := by
  have same : digitsValue (Nat.toDigits 10 n) = Nat.ofDigitChars 10 (Nat.toDigits 10 n) 0 := by
    simp only [digitsValue, Nat.ofDigitChars_eq_foldl, Nat.mul_comm]
  rw [same, Nat.ofDigitChars_ten_toDigits]

/-- A number has a first digit. -/
theorem toDigits_cons (n : Nat) : ∃ c cs, Nat.toDigits 10 n = c :: cs ∧ c.isDigit = true := by
  obtain ⟨c, cs, digits⟩ :=
    List.exists_cons_of_ne_nil (Nat.toDigits_ne_nil : Nat.toDigits 10 n ≠ [])
  have first : c ∈ Nat.toDigits 10 n := digits ▸ List.mem_cons_self
  exact ⟨c, cs, digits, Nat.isDigit_of_mem_toDigits (by decide) (by decide) first⟩

/-- What becomes of something that was written, with more behind it: it is read back, or refused
where it does not fit. -/
def outcome {α : Type} (fits : Bool) (a : α) (rest : List Char) : Except Unread (WithRest α) :=
  if fits then .ok (a, rest) else .error .excessive

@[simp] theorem outcome_true {α : Type} (a : α) (rest : List Char) :
    outcome true a rest = .ok (a, rest) := rfl

@[simp] theorem outcome_false {α : Type} (a : α) (rest : List Char) :
    outcome false a rest = .error .excessive := rfl

/-- An integer is read back if it does not have too many digits. -/
theorem number_digits {cs : List Char} (ended : Ended cs) (most : Nat) (negative : Bool) (n : Nat) :
    number .strict most negative (Nat.toDigits 10 n ++ cs) =
      outcome ((Nat.toDigits 10 n).length + negative.toNat ≤ most)
        (.int ((if negative then -1 else 1) * n)) cs := by
  have plain : ((Nat.toDigits 10 n).isEmpty ||
      ((Nat.toDigits 10 n).head? = some '0' && (Nat.toDigits 10 n).length ≠ 1)) = false := by
    by_cases h : n = 0
    · subst h
      rfl
    · simp [head?_toDigits_ne_zero h, Nat.toDigits_ne_nil]
  simp only [number, digits_append ended, plain, fraction_of_ended ended, exponent_of_ended ended,
    ok_bind]
  by_cases fits : (Nat.toDigits 10 n).length + negative.toNat ≤ most
  · simp [fits, Nat.not_lt.2 fits, Dialect.refusesDigits, digitsValue_toDigits]
  · simp [fits, Nat.lt_of_not_le fits, Dialect.refusesDigits]

/-- An integer is written with its digits, and a sign in front if it is below nothing. -/
theorem toList_toString (n : Int) : (toString n).toList =
    if n < 0 then '-' :: Nat.toDigits 10 n.natAbs else Nat.toDigits 10 n.natAbs := by
  cases n with
  | ofNat m => simp [toString, Int.repr, Nat.toList_repr]
  | negSucc m => simp [toString, Int.repr, Nat.toList_repr]

end Terraforming.Json
