/-!
# Tables

A table is a finite map kept as a list of entries whose keys ascend strictly.  The order is part
of the type, so two tables with the same look-ups are the same table (`Table.ext_get?`), whatever
the order in which their entries were written.  Writing keeps the last value given to a key
(`get?_insert_self`, `get?_insert_of_ne`).
-/

namespace Terraforming

/-- A finite map: entries with strictly ascending keys. -/
structure Table (κ ν : Type) [Ord κ] where
  entries : List (κ × ν)
  ascending : entries.Pairwise fun a b => compare a.1 b.1 = .lt
deriving DecidableEq

namespace Table

variable {κ ν μ : Type} [Ord κ]

/-! ## Looking up -/

/-- The value of the first entry whose key compares equal to `k`. -/
def lookUp (k : κ) : List (κ × ν) → Option ν
  | [] => none
  | e :: es => if compare k e.1 = .eq then some e.2 else lookUp k es

def get? (t : Table κ ν) (k : κ) : Option ν := lookUp k t.entries

def getD (t : Table κ ν) (k : κ) (d : ν) : ν := (t.get? k).getD d

def contains (t : Table κ ν) (k : κ) : Bool := (t.get? k).isSome

def keys (t : Table κ ν) : List κ := t.entries.map (·.1)

def values (t : Table κ ν) : List ν := t.entries.map (·.2)

def size (t : Table κ ν) : Nat := t.entries.length

def isEmpty (t : Table κ ν) : Bool := t.entries.isEmpty

/-! ## Writing -/

def empty : Table κ ν := ⟨[], .nil⟩

instance : EmptyCollection (Table κ ν) := ⟨empty⟩

instance : Inhabited (Table κ ν) := ⟨empty⟩

/-- Put `v` under `k` into an ascending list, in place of an entry with that key. -/
def place (k : κ) (v : ν) : List (κ × ν) → List (κ × ν)
  | [] => [(k, v)]
  | e :: es =>
    match compare k e.1 with
    | .lt => (k, v) :: e :: es
    | .eq => (k, v) :: es
    | .gt => e :: place k v es

theorem mem_place {k : κ} {v : ν} {x : κ × ν} :
    ∀ {es : List (κ × ν)}, x ∈ place k v es → x = (k, v) ∨ x ∈ es
  | [], h => by simpa [place] using h
  | e :: es, h => by
    unfold place at h
    split at h
    · simpa using h
    · rcases List.mem_cons.1 h with h | h
      · exact .inl h
      · exact .inr (List.mem_cons_of_mem _ h)
    · rcases List.mem_cons.1 h with h | h
      · exact .inr (h ▸ List.mem_cons_self)
      · exact (mem_place h).imp_right (List.mem_cons_of_mem _)

theorem place_ascending [Std.TransOrd κ] (k : κ) (v : ν) :
    ∀ {es : List (κ × ν)}, es.Pairwise (fun a b => compare a.1 b.1 = .lt) →
      (place k v es).Pairwise fun a b => compare a.1 b.1 = .lt
  | [], _ => List.pairwise_singleton _ _
  | e :: es, h => by
    obtain ⟨head, tail⟩ := List.pairwise_cons.1 h
    unfold place
    split
    next below =>
      refine List.pairwise_cons.2 ⟨fun x hx => ?_, h⟩
      rcases List.mem_cons.1 hx with rfl | hx
      · exact below
      · exact Std.TransCmp.lt_trans below (head x hx)
    next same =>
      exact List.pairwise_cons.2 ⟨fun x hx => Std.TransCmp.lt_of_eq_of_lt same (head x hx), tail⟩
    next above =>
      refine List.pairwise_cons.2 ⟨fun x hx => ?_, place_ascending k v tail⟩
      rcases mem_place hx with rfl | hx
      · exact Std.OrientedCmp.lt_of_gt above
      · exact head x hx

variable [Std.TransOrd κ]

/-- The table with `v` under `k`, replacing what was there. -/
def insert (t : Table κ ν) (k : κ) (v : ν) : Table κ ν :=
  ⟨place k v t.entries, place_ascending k v t.ascending⟩

/-- The table of the pairs, a later pair winning over an earlier one with the same key. -/
def ofList (es : List (κ × ν)) : Table κ ν := es.foldl (fun t e => t.insert e.1 e.2) empty

/-- The table without the entries whose key fails `p`. -/
def filterKeys (t : Table κ ν) (p : κ → Bool) : Table κ ν :=
  ⟨t.entries.filter (p ·.1), t.ascending.filter _⟩

/-- The same keys, every value replaced by its image. -/
def mapValues (t : Table κ ν) (f : ν → μ) : Table κ μ :=
  ⟨t.entries.map fun e => (e.1, f e.2), List.pairwise_map.2 t.ascending⟩

/-! ## What a look-up sees after a write -/

omit [Std.TransOrd κ] in
@[simp] theorem get?_empty (k : κ) : (empty : Table κ ν).get? k = none := rfl

omit [Std.TransOrd κ] in
theorem lookUp_place_self [Std.LawfulEqOrd κ] (k : κ) (v : ν) :
    ∀ es : List (κ × ν), lookUp k (place k v es) = some v
  | [] => by simp [place, lookUp]
  | e :: es => by
    unfold place
    split
    · simp [lookUp]
    · simp [lookUp]
    next above => simp [lookUp, above, lookUp_place_self k v es]

omit [Std.TransOrd κ] in
theorem lookUp_place_of_ne [Std.LawfulEqOrd κ] {k k' : κ} (v : ν) (h : k' ≠ k) :
    ∀ es : List (κ × ν), lookUp k' (place k v es) = lookUp k' es
  | [] => by
    have : compare k' k ≠ .eq := fun e => h (Std.LawfulEqOrd.eq_of_compare e)
    simp [place, lookUp, this]
  | e :: es => by
    have ne : compare k' k ≠ .eq := fun e => h (Std.LawfulEqOrd.eq_of_compare e)
    unfold place
    split
    · simp [lookUp, ne]
    next same =>
      have : k = e.1 := Std.LawfulEqOrd.eq_of_compare same
      simp [lookUp, ← this, ne]
    · simp only [lookUp]
      split
      · rfl
      · exact lookUp_place_of_ne v h es

@[simp] theorem get?_insert_self [Std.LawfulEqOrd κ] (t : Table κ ν) (k : κ) (v : ν) :
    (t.insert k v).get? k = some v :=
  lookUp_place_self k v t.entries

theorem get?_insert_of_ne [Std.LawfulEqOrd κ] (t : Table κ ν) {k k' : κ} (v : ν) (h : k' ≠ k) :
    (t.insert k v).get? k' = t.get? k' :=
  lookUp_place_of_ne v h t.entries

/-! ## Equality -/

omit [Std.TransOrd κ] in
theorem lookUp_eq_none {k : κ} :
    ∀ {es : List (κ × ν)}, (∀ e ∈ es, compare k e.1 = .lt) → lookUp k es = none
  | [], _ => rfl
  | e :: es, h => by
    simp only [lookUp, h e List.mem_cons_self, reduceCtorEq, if_false]
    exact lookUp_eq_none fun x hx => h x (List.mem_cons_of_mem _ hx)

theorem eq_of_lookUp_eq [Std.LawfulEqOrd κ] :
    ∀ {as bs : List (κ × ν)}, as.Pairwise (fun a b => compare a.1 b.1 = .lt) →
      bs.Pairwise (fun a b => compare a.1 b.1 = .lt) → (∀ k, lookUp k as = lookUp k bs) → as = bs
  | [], [], _, _, _ => rfl
  | [], b :: bs, _, _, h => by simpa [lookUp] using h b.1
  | a :: as, [], _, _, h => by simpa [lookUp] using h a.1
  | (k, v) :: as, (k', v') :: bs, ha, hb, h => by
    obtain ⟨ha, has⟩ := List.pairwise_cons.1 ha
    obtain ⟨hb, hbs⟩ := List.pairwise_cons.1 hb
    have same : compare k k' = .eq := by
      cases c : compare k k' with
      | eq => rfl
      | lt =>
        have missing : lookUp k ((k', v') :: bs) = none := lookUp_eq_none fun e he => by
          rcases List.mem_cons.1 he with rfl | he
          · exact c
          · exact Std.TransCmp.lt_trans c (hb e he)
        have := (h k).trans missing
        simp [lookUp] at this
      | gt =>
        have c' : compare k' k = .lt := Std.OrientedCmp.lt_of_gt c
        have missing : lookUp k' ((k, v) :: as) = none := lookUp_eq_none fun e he => by
          rcases List.mem_cons.1 he with rfl | he
          · exact c'
          · exact Std.TransCmp.lt_trans c' (ha e he)
        have := (h k').symm.trans missing
        simp [lookUp] at this
    obtain rfl : k = k' := Std.LawfulEqOrd.eq_of_compare same
    obtain rfl : v = v' := by simpa [lookUp] using h k
    congr 1
    refine eq_of_lookUp_eq has hbs fun j => ?_
    by_cases hj : compare j k = .eq
    · obtain rfl : j = k := Std.LawfulEqOrd.eq_of_compare hj
      rw [lookUp_eq_none ha, lookUp_eq_none hb]
    · simpa [lookUp, hj] using h j

/-- **Extensionality.**  A table is determined by what it answers. -/
theorem ext_get? [Std.LawfulEqOrd κ] {t u : Table κ ν} (h : ∀ k, t.get? k = u.get? k) : t = u := by
  cases t with | mk es hes =>
  cases u with | mk fs hfs =>
  congr 1
  exact eq_of_lookUp_eq hes hfs h

end Table

/-! ## Sets -/

/-- A finite set of keys, in ascending order. -/
abbrev KeySet (κ : Type) [Ord κ] := Table κ Unit

namespace KeySet

variable {κ : Type} [Ord κ]

def toList (s : KeySet κ) : List κ := s.keys

variable [Std.TransOrd κ]

def add (s : KeySet κ) (k : κ) : KeySet κ := s.insert k ()

def ofList (ks : List κ) : KeySet κ := Table.ofList (ks.map fun k => (k, ()))

end KeySet

end Terraforming
