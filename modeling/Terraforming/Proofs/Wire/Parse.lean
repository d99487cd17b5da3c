import Terraforming.Proofs.Wire.Tokens

/-!
# Texts of values

A value that is written as a text is read back, unless an integer in it has too many digits or arrays
and objects are nested too deep; then its text is refused.

* `Json.fits`, `Json.plain` — what is not too much for a reader, and what has a text of its own;
* `Json.value_text` — a value at the front of a text;
* `Json.ofText?_text` — a text that is one.
-/

namespace Terraforming.Json

/-! ## What can be read back -/

mutual

/-- Integers are written with at most `most` characters, and arrays and objects with something in them
are nested at most `depth` deep. -/
def fits (most depth : Nat) : Json → Bool
  | int n => (toString n).toList.length ≤ most
  | array xs => xs.isEmpty || (depth ≠ 0 && allFit most (depth - 1) xs)
  | object ms => ms.isEmpty || (depth ≠ 0 && membersFit most (depth - 1) ms)
  | _ => true

def allFit (most depth : Nat) : List Json → Bool
  | [] => true
  | x :: xs => x.fits most depth && allFit most depth xs

def membersFit (most depth : Nat) : List (String × Json) → Bool
  | [] => true
  | (_, x) :: ms => x.fits most depth && membersFit most depth ms

end

/-- The value is not too much for a reader with these limits. -/
def within (limits : Limits) (j : Json) : Bool := j.fits limits.digits limits.depth

mutual

/-- There are no decimals, no numbers that are not finite and no texts that are not made of
characters. -/
def plain : Json → Bool
  | decimal _ _ | notFinite | garbled => false
  | array xs => allPlain xs
  | object ms => membersPlain ms
  | _ => true

def allPlain : List Json → Bool
  | [] => true
  | x :: xs => x.plain && allPlain xs

def membersPlain : List (String × Json) → Bool
  | [] => true
  | (_, x) :: ms => x.plain && membersPlain ms

end

variable {most : Nat}

theorem allFit_iff {depth : Nat} {xs : List Json} :
    allFit most depth xs = true ↔ ∀ x ∈ xs, x.fits most depth = true := by
  induction xs with
  | nil => simp [allFit]
  | cons x xs ih => simp [allFit, ih]

theorem membersFit_iff {depth : Nat} {ms : List (String × Json)} :
    membersFit most depth ms = true ↔ ∀ m ∈ ms, m.2.fits most depth = true := by
  induction ms with
  | nil => simp [membersFit]
  | cons m ms ih => simp [membersFit, ih]

theorem allPlain_iff {xs : List Json} : allPlain xs = true ↔ ∀ x ∈ xs, x.plain = true := by
  induction xs with
  | nil => simp [allPlain]
  | cons x xs ih => simp [allPlain, ih]

theorem membersPlain_iff {ms : List (String × Json)} :
    membersPlain ms = true ↔ ∀ m ∈ ms, m.2.plain = true := by
  induction ms with
  | nil => simp [membersPlain]
  | cons m ms ih => simp [membersPlain, ih]

/-- What is in an array that fits, or in an object, fits one step further down. -/
theorem fits_of_mem_array {depth : Nat} {xs : List Json} {x : Json}
    (h : (array xs).fits most depth = true) (hx : x ∈ xs) :
    0 < depth ∧ x.fits most (depth - 1) = true := by
  have filled : xs ≠ [] := List.ne_nil_of_mem hx
  have inner : depth ≠ 0 ∧ allFit most (depth - 1) xs = true := by simpa [fits, filled] using h
  exact ⟨Nat.pos_of_ne_zero inner.1, allFit_iff.1 inner.2 x hx⟩

theorem fits_of_mem_object {depth : Nat} {ms : List (String × Json)} {m : String × Json}
    (h : (object ms).fits most depth = true) (hm : m ∈ ms) :
    0 < depth ∧ m.2.fits most (depth - 1) = true := by
  have filled : ms ≠ [] := List.ne_nil_of_mem hm
  have inner : depth ≠ 0 ∧ membersFit most (depth - 1) ms = true := by simpa [fits, filled] using h
  exact ⟨Nat.pos_of_ne_zero inner.1, membersFit_iff.1 inner.2 m hm⟩

theorem sizeOf_lt_of_mem_array {xs : List Json} {x : Json} (hx : x ∈ xs) :
    sizeOf x < sizeOf (array xs) := by
  have smaller := List.sizeOf_lt_of_mem hx
  simp only [array.sizeOf_spec]
  omega

theorem sizeOf_lt_of_mem_object {ms : List (String × Json)} {m : String × Json} (hm : m ∈ ms) :
    sizeOf m.2 < sizeOf (object ms) := by
  have smaller := List.sizeOf_lt_of_mem hm
  obtain ⟨name, x⟩ := m
  simp only [object.sizeOf_spec, Prod.mk.sizeOf_spec] at smaller ⊢
  omega

/-! ## The front of a text -/

/-- A value begins here: no blank, and nothing that closes an array or an object. -/
def Begun (cs : List Char) : Prop :=
  ∃ c rest, cs = c :: rest ∧ isSpace c = false ∧ c ≠ ']' ∧ c ≠ '\x7d'

theorem Begun.skipSpaces {cs : List Char} (begun : Begun cs) : skipSpaces cs = cs := by
  obtain ⟨c, rest, rfl, visible, -⟩ := begun
  simp [Json.skipSpaces, visible]

theorem Begun.append {cs : List Char} (begun : Begun cs) (rest : List Char) :
    Begun (cs ++ rest) := by
  obtain ⟨c, cs, rfl, h⟩ := begun
  exact ⟨c, cs ++ rest, rfl, h⟩

/-- The first character of an integer. -/
theorem toString_cons (n : Int) :
    ∃ c cs, (toString n).toList = c :: cs ∧ (c = '-' ∨ c.isDigit = true) := by
  rw [toList_toString]
  split_ifs
  · exact ⟨_, _, rfl, .inl rfl⟩
  · obtain ⟨c, cs, digits, digit⟩ := toDigits_cons n.natAbs
    exact ⟨c, cs, digits, .inr digit⟩

/-- A numeral begins with none of these. -/
theorem ne_of_numeral {c d : Char} (h : c = '-' ∨ c.isDigit = true)
    (other : d ≠ '-' ∧ d.isDigit = false) : c ≠ d := by
  rintro rfl
  simp_all

theorem begun_toString (n : Int) : Begun (toString n).toList := by
  obtain ⟨c, cs, text, numeral⟩ := toString_cons n
  have other := fun d => ne_of_numeral (d := d) numeral
  exact ⟨c, cs, text, by simp [isSpace, other], other _ (by decide), other _ (by decide)⟩

/-! ## The texts of arrays and objects -/

/-- The text behind an element of an array. -/
def arrayRest : List Json → List Char
  | [] => [']']
  | x :: xs => ',' :: (x.text.toList ++ arrayRest xs)

def memberText (m : String × Json) : List Char := (stringText m.1).toList ++ ':' :: m.2.text.toList

/-- The text behind a member of an object. -/
def objectRest : List (String × Json) → List Char
  | [] => ['\x7d']
  | m :: ms => ',' :: (memberText m ++ objectRest ms)

theorem toList_array_cons (x : Json) (xs : List Json) :
    (array (x :: xs)).text.toList = '[' :: (x.text.toList ++ arrayRest xs) := by
  have inner : ∀ (xs : List Json) (x : Json),
      (",".intercalate (textAll (x :: xs))).toList ++ [']'] = x.text.toList ++ arrayRest xs := by
    intro xs
    induction xs with
    | nil => simp [textAll, arrayRest]
    | cons y xs ih =>
      intro x
      rw [arrayRest, ← ih y]
      simp [textAll]
  simp [text, ← inner]

theorem toList_object_cons (m : String × Json) (ms : List (String × Json)) :
    (object (m :: ms)).text.toList = '\x7b' :: (memberText m ++ objectRest ms) := by
  have inner : ∀ (ms : List (String × Json)) (m : String × Json),
      (",".intercalate (textMembers (m :: ms))).toList ++ ['\x7d'] =
        memberText m ++ objectRest ms := by
    intro ms
    induction ms with
    | nil => simp [textMembers, objectRest, memberText]
    | cons n ms ih =>
      intro m
      rw [objectRest, ← ih n]
      simp [textMembers, memberText]
  simp [text, ← inner]

/-- The text of a plain value begins with a value. -/
theorem begun_text {j : Json} (h : j.plain) : Begun j.text.toList := by
  cases j with
  | int n => exact begun_toString n
  | null => exact ⟨_, _, rfl, by decide⟩
  | bool b => cases b <;> exact ⟨_, _, rfl, by decide⟩
  | decimal m e => cases h
  | notFinite => cases h
  | string s => exact ⟨_, _, toList_stringText s, by decide⟩
  | garbled => cases h
  | array xs =>
    cases xs with
    | nil => exact ⟨_, _, rfl, by decide⟩
    | cons x xs => exact ⟨_, _, toList_array_cons x xs, by decide⟩
  | object ms =>
    cases ms with
    | nil => exact ⟨_, _, rfl, by decide⟩
    | cons m ms => exact ⟨_, _, toList_object_cons m ms, by decide⟩

theorem begun_memberText (m : String × Json) : Begun (memberText m) := by
  rw [memberText, toList_stringText]
  exact ⟨_, _, rfl, by decide⟩

theorem ended_arrayRest (xs : List Json) (rest : List Char) : Ended (arrayRest xs ++ rest) := by
  cases xs <;> simp [arrayRest, Ended]

theorem ended_objectRest (ms : List (String × Json)) (rest : List Char) :
    Ended (objectRest ms ++ rest) := by
  cases ms <;> simp [objectRest, Ended]

/-! ## Values -/

/-- No word begins with a digit, or with a sign in front of one. -/
theorem find?_words {c : Char} (digit : c.isDigit = true) (cs : List Char) :
    words.find? (fun w => w.1.toList.isPrefixOf (c :: cs)) = none ∧
      words.find? (fun w => w.1.toList.isPrefixOf ('-' :: c :: cs)) = none := by
  have other : ∀ d : Char, d.isDigit = false → ¬d = c := by
    rintro d h rfl
    simp_all
  simp [words, other]

theorem wordOrNumber_digit {c : Char} (digit : c.isDigit = true) (cs : List Char) :
    wordOrNumber .strict most (c :: cs) = number .strict most false (c :: cs) ∧
      wordOrNumber .strict most ('-' :: c :: cs) = number .strict most true (c :: cs) := by
  obtain ⟨unsigned, signed⟩ := find?_words digit cs
  constructor
  · simp only [wordOrNumber, unsigned]
    split
    · next h =>
      injection h with h
      subst h
      cases digit
    · rfl
  · simp only [wordOrNumber, signed]

theorem wordOrNumber_toString {rest : List Char} (ended : Ended rest) (most : Nat) (n : Int) :
    wordOrNumber .strict most ((toString n).toList ++ rest) =
      outcome ((toString n).toList.length ≤ most) (.int n) rest := by
  obtain ⟨c, cs, digits, digit⟩ := toDigits_cons n.natAbs
  obtain ⟨unsigned, signed⟩ := wordOrNumber_digit digit (cs ++ rest)
  rw [toList_toString]
  by_cases negative : n < 0
  · have value : (if true then -1 else 1) * (n.natAbs : Int) = n := by
      rw [if_pos rfl]
      omega
    have read := number_digits ended most true n.natAbs
    rw [value, digits] at read
    rw [if_pos negative, digits]
    exact signed.trans read
  · have value : (if false then -1 else 1) * (n.natAbs : Int) = n := by
      rw [if_neg Bool.false_ne_true]
      omega
    have read := number_digits ended most false n.natAbs
    rw [value, digits] at read
    rw [if_neg negative, digits]
    exact unsigned.trans read

/-- What begins neither a string nor an array nor an object is a word or a number. -/
theorem value_of_ne {d : Dialect} {c : Char} {cs : List Char} (visible : isSpace c = false)
    (quote : c ≠ '"') (bracket : c ≠ '[') (brace : c ≠ '\x7b') (steps depth : Nat) :
    value d most (steps + 1) depth (c :: cs) = wordOrNumber d most (c :: cs) := by
  simp [value, skipSpaces, visible, quote, bracket, brace]

/-- A value that begins with a numeral is one. -/
theorem value_toString {rest : List Char} (ended : Ended rest) (n : Int) (steps depth : Nat) :
    value .strict most (steps + 1) depth ((toString n).toList ++ rest) =
      outcome ((int n).fits most depth) (.int n) rest := by
  obtain ⟨c, cs, digits, numeral⟩ := toString_cons n
  have other := fun d => ne_of_numeral (d := d) numeral
  have visible : isSpace c = false := by simp [isSpace, other]
  have read := wordOrNumber_toString ended most n
  rw [digits, List.cons_append] at read ⊢
  rw [value_of_ne visible (other _ (by decide)) (other _ (by decide)) (other _ (by decide)), read,
    fits, digits]

theorem value_stringText (s : String) (rest : List Char) (steps depth : Nat) :
    value .strict most (steps + 1) depth ((stringText s).toList ++ rest) = .ok (.string s, rest) := by
  obtain ⟨body, begins, read⟩ := stringRest_stringText (d := .strict) s rest
  have front : skipSpaces ('"' :: body) = '"' :: body := rfl
  rw [begins]
  simp only [value, front, read, ok_bind, ofScanned, text_ofRead]
  rfl

/-- An array with something in it takes one step down. -/
theorem value_bracket {d : Dialect} {cs : List Char} (begun : Begun cs) (steps : Nat) :
    value d most (steps + 1) 0 ('[' :: cs) = .error .excessive ∧
      ∀ depth, value d most (steps + 1) (depth + 1) ('[' :: cs) =
        elements d most steps depth [] cs := by
  have front : skipSpaces ('[' :: cs) = '[' :: cs := rfl
  have stays := begun.skipSpaces
  obtain ⟨c, rest, rfl, visible, bracket, brace⟩ := begun
  constructor
  · simp only [value, front, stays]
    split <;> simp_all
  · intro depth
    simp only [value, front, stays]
    split <;> simp_all

/-- An object with something in it takes one step down. -/
theorem value_brace {d : Dialect} {cs : List Char} (begun : Begun cs) (steps : Nat) :
    value d most (steps + 1) 0 ('\x7b' :: cs) = .error .excessive ∧
      ∀ depth, value d most (steps + 1) (depth + 1) ('\x7b' :: cs) =
        members d most steps depth [] cs := by
  have front : skipSpaces ('\x7b' :: cs) = '\x7b' :: cs := rfl
  have stays := begun.skipSpaces
  obtain ⟨c, rest, rfl, visible, bracket, brace⟩ := begun
  constructor
  · simp only [value, front, stays]
    split <;> simp_all
  · intro depth
    simp only [value, front, stays]
    split <;> simp_all

/-- At the front of any text, a value is read back if it fits.  A step is taken for each value, and
each has a character at least, so the length of the text bounds the steps. -/
def ReadBack (most : Nat) (j : Json) : Prop :=
  ∀ rest, Ended rest → ∀ steps depth, j.text.toList.length < steps →
    value .strict most steps depth (j.text.toList ++ rest) = outcome (j.fits most depth) j rest

theorem readBack_of_step {j : Json}
    (step : ∀ rest, Ended rest → ∀ steps depth,
      value .strict most (steps + 1) depth (j.text.toList ++ rest) =
        outcome (j.fits most depth) j rest) :
    ReadBack most j := by
  intro rest ended steps depth enough
  obtain _ | steps := steps
  · exact absurd enough (Nat.not_lt_zero _)
  · exact step rest ended steps depth

/-- The elements of an array are read back behind those that were read. -/
theorem elements_text {x : Json} {xs : List Json} (each : ∀ y ∈ x :: xs, ReadBack most y)
    (read : List Json) (rest : List Char) {steps depth : Nat}
    (enough : (x.text.toList ++ arrayRest xs).length < steps) :
    elements .strict most steps depth read (x.text.toList ++ arrayRest xs ++ rest) =
      outcome (allFit most depth (x :: xs)) (array (read.reverse ++ x :: xs)) rest := by
  induction xs generalizing x read steps with
  | nil =>
    obtain _ | steps := steps
    · exact absurd enough (Nat.not_lt_zero _)
    have first := each x (by simp) _ (ended_arrayRest [] rest) steps depth
      (by simp [arrayRest] at enough; omega)
    rw [List.append_assoc, elements, first]
    cases fits : x.fits most depth <;> simp [allFit, fits, arrayRest, skipSpaces, isSpace]
  | cons y ys ih =>
    obtain _ | steps := steps
    · exact absurd enough (Nat.not_lt_zero _)
    have first := each x (by simp) _ (ended_arrayRest (y :: ys) rest) steps depth
      (by simp [arrayRest] at enough; omega)
    have room : (y.text.toList ++ arrayRest ys).length < steps := by
      simp [arrayRest] at enough ⊢
      omega
    have later := ih (fun z hz => each z (List.mem_cons_of_mem _ hz)) (x :: read) room
    rw [List.append_assoc, elements, first]
    cases fits : x.fits most depth with
    | false => simp [allFit, fits]
    | true => simpa [allFit, fits, arrayRest, skipSpaces, isSpace] using later

/-- A member is read up to what follows its value. -/
theorem members_memberText (m : String × Json) (cs : List Char) (read : List (String × Json))
    (steps depth : Nat) :
    members .strict most (steps + 1) depth read (memberText m ++ cs) = (do
      let (v, cs) ← value .strict most steps depth (m.2.text.toList ++ cs)
      match skipSpaces cs with
      | ',' :: cs => members .strict most steps depth ((m.1, v) :: read) cs
      | '\x7d' :: cs => return (.object ((m.1, v) :: read).reverse, cs)
      | _ => malformed) := by
  obtain ⟨body, begins, name⟩ :=
    stringRest_stringText (d := .strict) m.1 (':' :: m.2.text.toList ++ cs)
  have text : memberText m ++ cs = '"' :: body := by
    rw [← begins, memberText]
    simp
  have front : skipSpaces ('"' :: body) = '"' :: body := rfl
  have colon : skipSpaces (':' :: m.2.text.toList ++ cs) = ':' :: (m.2.text.toList ++ cs) := rfl
  rw [text]
  simp only [members, front, name, ok_bind, colon, text_ofRead]
  rfl

/-- The members of an object are read back behind those that were read. -/
theorem members_text {m : String × Json} {ms : List (String × Json)}
    (each : ∀ n ∈ m :: ms, ReadBack most n.2) (read : List (String × Json)) (rest : List Char)
    {steps depth : Nat} (enough : (memberText m ++ objectRest ms).length < steps) :
    members .strict most steps depth read (memberText m ++ objectRest ms ++ rest) =
      outcome (membersFit most depth (m :: ms)) (object (read.reverse ++ m :: ms)) rest := by
  induction ms generalizing m read steps with
  | nil =>
    obtain _ | steps := steps
    · exact absurd enough (Nat.not_lt_zero _)
    have first := each m (by simp) _ (ended_objectRest [] rest) steps depth
      (by simp [objectRest, memberText] at enough; omega)
    rw [List.append_assoc, members_memberText, first]
    cases fits : m.2.fits most depth <;> simp [membersFit, fits, objectRest, skipSpaces, isSpace]
  | cons n ms ih =>
    obtain _ | steps := steps
    · exact absurd enough (Nat.not_lt_zero _)
    have first := each m (by simp) _ (ended_objectRest (n :: ms) rest) steps depth
      (by simp [objectRest, memberText] at enough; omega)
    have room : (memberText n ++ objectRest ms).length < steps := by
      simp [objectRest] at enough ⊢
      omega
    have later := ih (fun k hk => each k (List.mem_cons_of_mem _ hk)) (m :: read) room
    rw [List.append_assoc, members_memberText, first]
    cases fits : m.2.fits most depth with
    | false => simp [membersFit, fits]
    | true => simpa [membersFit, fits, objectRest, skipSpaces, isSpace] using later

theorem readBack_array {xs : List Json} (plain : ∀ x ∈ xs, x.plain = true)
    (each : ∀ x ∈ xs, ReadBack most x) : ReadBack most (array xs) := by
  intro rest ended steps depth enough
  obtain _ | steps := steps
  · exact absurd enough (Nat.not_lt_zero _)
  obtain _ | ⟨x, xs⟩ := xs
  · rfl
  rw [toList_array_cons] at enough ⊢
  obtain ⟨refused, entered⟩ := value_bracket (d := .strict)
    (((begun_text (plain x List.mem_cons_self)).append (arrayRest xs)).append rest) steps
  obtain _ | depth := depth
  · exact refused
  · rw [List.cons_append, entered, elements_text each [] rest (by simpa using enough)]
    rfl

theorem readBack_object {ms : List (String × Json)} (each : ∀ m ∈ ms, ReadBack most m.2) :
    ReadBack most (object ms) := by
  intro rest ended steps depth enough
  obtain _ | steps := steps
  · exact absurd enough (Nat.not_lt_zero _)
  obtain _ | ⟨m, ms⟩ := ms
  · rfl
  rw [toList_object_cons] at enough ⊢
  obtain ⟨refused, entered⟩ := value_brace (d := .strict)
    (((begun_memberText m).append (objectRest ms)).append rest) steps
  obtain _ | depth := depth
  · exact refused
  · rw [List.cons_append, entered, members_text each [] rest (by simpa using enough)]
    rfl

/-- Every plain value is read back. -/
theorem readBack (most : Nat) : ∀ j : Json, j.plain → ReadBack most j
  | null, _ => readBack_of_step fun rest _ steps depth => rfl
  | bool b, _ => readBack_of_step fun rest _ steps depth => by cases b <;> rfl
  | int n, _ => readBack_of_step fun rest ended steps depth => value_toString ended n steps depth
  | string s, _ => readBack_of_step fun rest _ steps depth => value_stringText s rest steps depth
  | array xs, h =>
    have plain : ∀ x ∈ xs, x.plain = true := allPlain_iff.1 h
    readBack_array plain fun x hx => readBack most x (plain x hx)
  | object ms, h =>
    readBack_object fun m hm => readBack most m.2 (membersPlain_iff.1 h m hm)
termination_by j => sizeOf j
decreasing_by
  · exact sizeOf_lt_of_mem_array hx
  · exact sizeOf_lt_of_mem_object hm

/-- The text of a plain value is read back if the value is within the limits, and refused if it is
not. -/
theorem ofText?_text {j : Json} (h : j.plain) (limits : Limits) :
    ofText? j.text limits = if j.within limits then some j else none := by
  have read := readBack limits.digits j h [] (by simp [Ended]) (j.text.toList.length + 1) limits.depth
    (Nat.lt_succ_self _)
  rw [List.append_nil] at read
  rw [ofText?, parse, read, within]
  cases j.fits limits.digits limits.depth <;> rfl

end Terraforming.Json
