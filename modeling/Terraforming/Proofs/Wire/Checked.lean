import Terraforming.Proofs.Wire.Parse
import Terraforming.Wire.Checked
import Terraforming.Wire.Style

/-!
# Reading back

What is written in full is read back as it was.  For a record that follows field by field, once it is
known of what the fields hold (`Reader.term_term`, `Reader.optional_optional`): the lemmas on members
and fields let `simp` walk through it.  Lists and dictionaries are read back when everything in them
is (`Reader.array_map`, `Reader.dictionary_map`).
-/

namespace Terraforming

/-! ## Words -/

/-- Every term of a vocabulary is found again by its word. -/
class Vocabulary.Faithful (α : Type) [Vocabulary α] : Prop where
  ofWord?_word : ∀ a : α, Vocabulary.ofWord? (word a) = some a

/-! ## Members and fields -/

namespace Json

@[simp] theorem member?_nil (name : String) : member? name [] = none := rfl

/-- The last member with a name counts. -/
@[simp] theorem member?_cons (name k : String) (j : Json) (ms : List (String × Json)) :
    member? name ((k, j) :: ms) = (member? name ms).or (if k = name then some j else none) := by
  have general : ∀ (ms : List (String × Json)) (found : Option Json),
      ms.foldl (fun found m => if m.1 == name then some m.2 else found) found =
        (member? name ms).or found := by
    intro ms
    induction ms with
    | nil => exact fun found => rfl
    | cons m ms ih =>
      intro found
      rw [member?, List.foldl_cons, List.foldl_cons, ih, ih]
      cases member? name ms with
      | some j => rfl
      | none => by_cases h : m.1 = name <;> simp [h]
  rw [member?, List.foldl_cons, general]
  simp

variable {α : Type} {w : α → Json}

@[simp] theorem plain_array_nil : (array []).plain = true := rfl

@[simp] theorem plain_array_map {as : List α} :
    (array (as.map w)).plain = true ↔ ∀ a ∈ as, (w a).plain = true :=
  allPlain_iff.trans List.forall_mem_map

@[simp] theorem plain_object_nil : (object []).plain = true := rfl

@[simp] theorem plain_object_cons {m : String × Json} {ms : List (String × Json)} :
    (object (m :: ms)).plain = true ↔ m.2.plain = true ∧ (object ms).plain = true := by
  simp [plain, membersPlain]

@[simp] theorem plain_object_map {as : List α} {m : α → String × Json} :
    (object (as.map m)).plain = true ↔ ∀ a ∈ as, (m a).2.plain = true :=
  membersPlain_iff.trans List.forall_mem_map

@[simp] theorem plain_null : null.plain = true := rfl

@[simp] theorem plain_bool (b : Bool) : (bool b).plain = true := rfl

@[simp] theorem plain_int (n : Int) : (int n).plain = true := rfl

@[simp] theorem plain_string (s : String) : (string s).plain = true := rfl

@[simp] theorem plain_term [Vocabulary α] (a : α) : (term a).plain = true := rfl

@[simp] theorem plain_optional {o : Option α} :
    (optional w o).plain = true ↔ ∀ a ∈ o, (w a).plain = true := by
  cases o <;> simp [optional]

@[simp] theorem plain_terms [Vocabulary α] (as : List α) : (terms as).plain = true := by
  simp [terms]

@[simp] theorem plain_amounts [Vocabulary α] (es : List (α × Int)) : (amounts es).plain = true := by
  simp [amounts]

end Json

namespace Style

@[simp] theorem full_field (name : String) (d : Bool) (j : Json) :
    Style.full.field name d j = [(name, j)] := rfl

@[simp] theorem full_option {α : Type} (name : String) (w : α → Json) (o : Option α) :
    Style.full.option name w o = [(name, Json.optional w o)] := rfl

@[simp] theorem full_list (name : String) (xs : List Json) :
    Style.full.list name xs = [(name, .array xs)] := rfl

@[simp] theorem full_int (name : String) (d n : Int) :
    Style.full.int name d n = [(name, .int n)] := rfl

end Style

namespace Checked

variable {α β : Type}

@[simp] theorem map_ok (f : α → β) (a : α) : f <$> (ok a : Checked α) = ok (f a) := rfl

@[simp] theorem seq_ok (f : α → β) (a : α) : (ok f : Checked (α → β)) <*> ok a = ok (f a) := rfl

@[simp] theorem under_ok (name : String) (a : α) : (ok a : Checked α).under name = ok a := rfl

theorem check_ok {f : α → Except String β} {a : α} {b : β} (h : f a = .ok b) :
    (ok a : Checked α).check f = ok b := by
  simp only [check, andThen, h]

end Checked

namespace Reader

variable {α β : Type} {r : Reader α} {w : α → Json}

@[simp] theorem record_object (issue : Issue) (r : Members → Checked α) (ms : Members) :
    record issue r (.object ms) = r ms := rfl

@[simp] theorem field_eq (ms : Members) (name : String) (r : Reader α) : field ms name r =
    ((Json.member? name ms).map fun j => (r j).under name).getD
      (.under name (.fail .missing)) := by
  unfold field
  cases Json.member? name ms <;> rfl

@[simp] theorem fieldOr_eq (ms : Members) (name : String) (d : α) (r : Reader α) :
    fieldOr ms name d r = ((Json.member? name ms).map fun j => (r j).under name).getD (.ok d) := by
  unfold fieldOr
  cases Json.member? name ms <;> rfl

@[simp] theorem fieldOption_eq (ms : Members) (name : String) (r : Reader α) :
    fieldOption ms name r = fieldOr ms name none (optional r) := rfl

/-! ## Values -/

@[simp] theorem int_int (n : Int) : int (.int n) = .ok n := rfl

@[simp] theorem flag_bool (b : Bool) : flag (.bool b) = .ok b := rfl

@[simp] theorem string_string (s : String) : string (.string s) = .ok s := rfl

@[simp] theorem term_string [Vocabulary α] [Vocabulary.Faithful α] (a : α) :
    term (.string (word a)) = .ok a := by
  simp only [term, Vocabulary.Faithful.ofWord?_word]

@[simp] theorem term_term [Vocabulary α] [Vocabulary.Faithful α] (a : α) :
    term (.term a) = .ok a := term_string a

/-- A value that is left open is written as one that no other value is written as. -/
theorem optional_optional {o : Option α} (reads : ∀ a ∈ o, r (w a) = .ok a)
    (written : ∀ a, w a ≠ .null) : optional r (Json.optional w o) = .ok o := by
  cases o with
  | none => rfl
  | some a =>
    unfold optional Json.optional
    split
    next null => exact absurd null (written a)
    next => rw [reads a rfl, Checked.map_ok]

@[simp] theorem optional_null : optional r .null = .ok none := rfl

@[simp] theorem optional_term [Vocabulary α] [Vocabulary.Faithful α] (o : Option α) :
    optional term (Json.optional .term o) = .ok o :=
  optional_optional (fun a _ => term_term a) nofun

@[simp] theorem optional_int (o : Option Int) : optional int (Json.optional .int o) = .ok o :=
  optional_optional (fun n _ => int_int n) nofun

@[simp] theorem optional_string (o : Option String) :
    optional string (Json.optional .string o) = .ok o :=
  optional_optional (fun s _ => string_string s) nofun

/-! ## Lists and dictionaries -/

/-- Elements are read back whatever the first of them is numbered. -/
theorem all_elements {as : List α} (reads : ∀ a ∈ as, r (w a) = .ok a) (start : Nat) :
    Checked.all (elements r start (as.map w)) = .ok as := by
  induction as generalizing start with
  | nil => rfl
  | cons a as ih =>
    have first : r (w a) = .ok a := reads a List.mem_cons_self
    have others := ih (fun b hb => reads b (List.mem_cons_of_mem _ hb)) (start + 1)
    simp [elements, Checked.all, first, others]

/-- A list is read back when each of its elements is. -/
theorem array_map {as : List α} (issue : Issue) (reads : ∀ a ∈ as, r (w a) = .ok a) :
    array issue r (.array (as.map w)) = .ok as :=
  all_elements reads 0

/-- A dictionary is read back when each of its names and values is. -/
theorem dictionary_map {key : Reader α} {name : α → String} {r : Reader β} {w : β → Json}
    {es : List (α × β)} (keys : ∀ a, key (.string (name a)) = .ok a) (reads : ∀ b, r (w b) = .ok b) :
    dictionary key r (.object (es.map fun e => (name e.1, w e.2))) = .ok es := by
  induction es with
  | nil => rfl
  | cons e es ih =>
    have others : Checked.all ((es.map fun e => (name e.1, w e.2)).map (entry key r)) = .ok es := ih
    have first : entry key r (name e.1, w e.2) = .ok e := by simp [entry, keys, reads]
    simp only [dictionary, List.map_cons, Checked.all, first, others, Checked.map_ok, Checked.seq_ok]

@[simp] theorem dictionary_amounts [Vocabulary α] [Vocabulary.Faithful α] (es : List (α × Int)) :
    dictionary term int (.amounts es) = .ok es :=
  dictionary_map term_string int_int

end Reader

end Terraforming
