import Mathlib.Data.List.Nodup
import Terraforming.Data.Ledger

/-!
# Tables, by their look-ups

What a table holds, its keys and its values are all read off its look-ups (`get?_eq_some_iff`,
`mem_keys`), and writing shows in them (`get?_insert`, `keys_insert_perm`).  So a property of every
entry is a property of every look-up, and is checked one written entry at a time.
-/

namespace Terraforming

namespace Table

variable {κ ν μ : Type} [Ord κ] {t : Table κ ν} {k k' : κ} {v : ν}

/-! ## Images and new keys -/

theorem contains_eq_false_iff : t.contains k = false ↔ t.get? k = none := by
  rw [contains, Option.isSome_eq_false_iff, Option.isNone_iff_eq_none]

theorem lookUp_map (f : ν → μ) (es : List (κ × ν)) :
    lookUp k (es.map fun e => (e.1, f e.2)) = (lookUp k es).map f := by
  induction es with
  | nil => rfl
  | cons e es ih =>
    rw [List.map_cons, lookUp, lookUp]
    split
    · rfl
    · exact ih

theorem get?_mapValues (f : ν → μ) : (t.mapValues f).get? k = (t.get? k).map f :=
  lookUp_map f t.entries

theorem ext_entries {t u : Table κ ν} (h : t.entries = u.entries) : t = u := by
  cases t
  cases u
  cases h
  rfl

theorem place_map (f : ν → μ) (es : List (κ × ν)) :
    (place k v es).map (fun e => (e.1, f e.2)) = place k (f v) (es.map fun e => (e.1, f e.2)) := by
  induction es with
  | nil => rfl
  | cons e es ih =>
    rw [List.map_cons, place, place]
    cases compare k e.1 with
    | lt => rfl
    | eq => rfl
    | gt => exact congrArg (List.cons _) ih

theorem mapValues_insert [Std.TransOrd κ] (f : ν → μ) :
    (t.insert k v).mapValues f = (t.mapValues f).insert k (f v) :=
  ext_entries (place_map f t.entries)

theorem place_perm {es : List (κ × ν)} (h : lookUp k es = none) :
    (place k v es).Perm ((k, v) :: es) := by
  induction es with
  | nil => exact .refl _
  | cons e es ih =>
    rw [lookUp] at h
    rw [place]
    cases c : compare k e.1 with
    | lt => exact .refl _
    | eq =>
      rw [c] at h
      cases h
    | gt =>
      rw [c] at h
      exact ((ih h).cons e).trans (.swap (k, v) e _)

/-- A new key joins the keys. -/
theorem keys_insert_perm [Std.TransOrd κ] (h : t.get? k = none) :
    (t.insert k v).keys.Perm (k :: t.keys) :=
  (place_perm (v := v) h).map Prod.fst

/-- And its value joins the values. -/
theorem values_insert_perm [Std.TransOrd κ] (h : t.get? k = none) :
    (t.insert k v).values.Perm (v :: t.values) :=
  (place_perm (v := v) h).map Prod.snd

/-! ## Entries -/

variable [Std.LawfulEqOrd κ]

theorem lookUp_eq_some_iff :
    ∀ {es : List (κ × ν)}, es.Pairwise (fun a b => compare a.1 b.1 = .lt) →
      (lookUp k es = some v ↔ (k, v) ∈ es)
  | [], _ => by simp [lookUp]
  | e :: es, h => by
    obtain ⟨head, tail⟩ := List.pairwise_cons.1 h
    rw [lookUp, List.mem_cons]
    by_cases same : compare k e.1 = .eq
    · obtain rfl : k = e.1 := Std.LawfulEqOrd.eq_of_compare same
      -- no later entry has the key of the first
      have later : (e.1, v) ∉ es := by
        intro hv
        have := head _ hv
        simp at this
      simp [later, Prod.ext_iff, eq_comm]
    · have other : (k, v) ≠ e := by
        rintro rfl
        simp at same
      simp only [same, if_false, other, false_or]
      exact lookUp_eq_some_iff tail

/-- A look-up finds exactly the entries. -/
theorem get?_eq_some_iff : t.get? k = some v ↔ (k, v) ∈ t.entries :=
  lookUp_eq_some_iff t.ascending

theorem nodup_keys (t : Table κ ν) : t.keys.Nodup := by
  refine List.pairwise_map.2 (t.ascending.imp ?_)
  rintro a b below same
  rw [same] at below
  simp at below

theorem mem_keys : k ∈ t.keys ↔ (t.get? k).isSome = true := by
  rw [keys, Option.isSome_iff_exists]
  constructor
  · intro h
    obtain ⟨e, he, rfl⟩ := List.mem_map.1 h
    exact ⟨e.2, get?_eq_some_iff.2 he⟩
  · rintro ⟨v, hv⟩
    exact List.mem_map.2 ⟨(k, v), get?_eq_some_iff.1 hv, rfl⟩

theorem contains_iff : t.contains k = true ↔ k ∈ t.keys := mem_keys.symm

/-! ## Writing -/

variable [Std.TransOrd κ] [DecidableEq κ]

theorem get?_insert (t : Table κ ν) (k k' : κ) (v : ν) :
    (t.insert k v).get? k' = if k' = k then some v else t.get? k' := by
  split
  next same =>
    subst same
    exact get?_insert_self t k' v
  next other => exact get?_insert_of_ne t v other

/-- What holds of every entry holds of every entry after a write if it holds of the one written. -/
theorem forall_insert {P : κ → ν → Prop} (all : ∀ k' v', t.get? k' = some v' → P k' v')
    (new : P k v) : ∀ k' v', (t.insert k v).get? k' = some v' → P k' v' := by
  intro k' v' there
  rw [get?_insert] at there
  split at there
  next same =>
    cases there
    exact same ▸ new
  next => exact all k' v' there

/-- Where the key is new, what holds of every entry after the write holds of every entry before it and
of the one written. -/
theorem forall_insert_iff {P : κ → ν → Prop} (absent : t.get? k = none) :
    (∀ k' v', (t.insert k v).get? k' = some v' → P k' v') ↔
      (∀ k' v', t.get? k' = some v' → P k' v') ∧ P k v := by
  constructor
  · intro all
    refine ⟨fun k' v' there => all k' v' ?_, all k v (get?_insert_self t k v)⟩
    have other : k' ≠ k := by
      rintro rfl
      rw [absent] at there
      cases there
    rw [get?_insert_of_ne t v other, there]
  · rintro ⟨all, new⟩
    exact forall_insert all new

theorem getD_insert (t : Table κ ν) (k k' : κ) (v d : ν) :
    (t.insert k v).getD k' d = if k' = k then v else t.getD k' d := by
  rw [getD, get?_insert]
  split
  · rfl
  · rfl

theorem contains_insert (t : Table κ ν) (k k' : κ) (v : ν) :
    (t.insert k v).contains k' = true ↔ k' = k ∨ t.contains k' = true := by
  rw [contains, get?_insert, contains]
  by_cases h : k' = k <;> simp [h]

omit [Std.TransOrd κ] [DecidableEq κ] in
/-- What a table answers when some keys are left out. -/
theorem get?_filterKeys (t : Table κ ν) (p : κ → Bool) (k : κ) :
    (t.filterKeys p).get? k = if p k then t.get? k else none := by
  refine Option.ext fun v => ?_
  have kept : (t.filterKeys p).get? k = some v ↔ (k, v) ∈ t.entries ∧ p k = true :=
    get?_eq_some_iff.trans List.mem_filter
  rw [kept, ← get?_eq_some_iff]
  cases p k <;> simp

omit [Std.LawfulEqOrd κ] [DecidableEq κ] in
theorem place_values {es : List (κ × ν)} (ascending : es.Pairwise fun a b => compare a.1 b.1 = .lt)
    (h : lookUp k es = some v) :
    ∃ rest : List ν, (es.map (·.2)).Perm (v :: rest) ∧
      ∀ v', ((place k v' es).map (·.2)).Perm (v' :: rest) := by
  induction es with
  | nil => cases h
  | cons e es ih =>
    obtain ⟨head, tail⟩ := List.pairwise_cons.1 ascending
    rw [lookUp] at h
    cases c : compare k e.1 with
    | lt =>
      have missing : lookUp k es = none :=
        lookUp_eq_none fun x hx => Std.TransCmp.lt_trans c (head x hx)
      simp [c, missing] at h
    | eq =>
      rw [if_pos c] at h
      cases h
      refine ⟨es.map (·.2), .refl _, fun v' => ?_⟩
      rw [place, c]
      exact .refl _
    | gt =>
      simp only [c, reduceCtorEq, if_false] at h
      obtain ⟨rest, before, after⟩ := ih tail h
      refine ⟨e.2 :: rest, (before.cons e.2).trans (.swap _ _ _), fun v' => ?_⟩
      rw [place, c]
      exact ((after v').cons e.2).trans (.swap _ _ _)

omit [Std.LawfulEqOrd κ] [DecidableEq κ] in
/-- Writing replaces one value and leaves the rest. -/
theorem values_insert (h : t.get? k = some v) :
    ∃ rest : List ν, t.values.Perm (v :: rest) ∧
      ∀ v', (t.insert k v').values.Perm (v' :: rest) :=
  place_values t.ascending h

/-! ## Tables of lists -/

/-- A list whose keys are distinct is the entries of its table. -/
theorem get?_ofList {es : List (κ × ν)} (distinct : (es.map (·.1)).Nodup) :
    (ofList es).get? k = some v ↔ (k, v) ∈ es := by
  suffices all : ∀ t : Table κ ν, (∀ e ∈ es, t.get? e.1 = none) →
      ((es.foldl (fun t e => t.insert e.1 e.2) t).get? k = some v ↔
        (k, v) ∈ es ∨ t.get? k = some v) by
    rw [ofList, all empty fun e _ => get?_empty e.1, get?_empty]
    simp
  induction es with
  | nil => simp
  | cons e es ih =>
    intro t fresh
    rw [List.map_cons, List.nodup_cons] at distinct
    have fresh' : ∀ d ∈ es, (t.insert e.1 e.2).get? d.1 = none := by
      intro d hd
      have ne : d.1 ≠ e.1 := fun same => distinct.1 (same ▸ List.mem_map.2 ⟨d, hd, rfl⟩)
      rw [get?_insert_of_ne _ _ ne]
      exact fresh d (List.mem_cons_of_mem _ hd)
    rw [List.foldl_cons, ih distinct.2 _ fresh', get?_insert, List.mem_cons]
    by_cases same : k = e.1
    · subst same
      have absent : t.get? e.1 = none := fresh e List.mem_cons_self
      simp [absent, Prod.ext_iff, eq_comm, or_comm]
    · simp [same, Prod.ext_iff]

/-- What holds of all pairs of a list holds of all entries of its table. -/
theorem forall_ofList {P : κ → ν → Prop} {es : List (κ × ν)} (all : ∀ e ∈ es, P e.1 e.2) :
    ∀ k v, (ofList es).get? k = some v → P k v := by
  suffices kept : ∀ t : Table κ ν, (∀ k v, t.get? k = some v → P k v) →
      ∀ k v, (es.foldl (fun t e => t.insert e.1 e.2) t).get? k = some v → P k v from
    kept empty fun k v there => nomatch there
  induction es with
  | nil => exact fun t before => before
  | cons e es ih =>
    obtain ⟨first, rest⟩ := List.forall_mem_cons.1 all
    exact fun t before => ih rest _ (forall_insert before first)

theorem get?_ofList_singleton {k' : κ} {v' : ν} :
    (ofList [(k', v')]).get? k = some v ↔ k = k' ∧ v = v' := by
  have distinct : ([(k', v')].map (·.1)).Nodup := List.nodup_singleton k'
  rw [get?_ofList distinct, List.mem_singleton, Prod.mk.injEq]

/-- A table is the table of its entries. -/
theorem ofList_entries (t : Table κ ν) : ofList t.entries = t := by
  refine ext_get? fun k => Option.ext fun v => ?_
  rw [get?_ofList t.nodup_keys, get?_eq_some_iff]

/-- A table whose values name their keys is the table of its values. -/
theorem ofList_values {t : Table κ ν} {key : ν → κ} (keyed : ∀ e ∈ t.entries, key e.2 = e.1) :
    ofList (t.values.map fun v => (key v, v)) = t := by
  have listed : t.values.map (fun v => (key v, v)) = t.entries := by
    rw [values, List.map_map]
    calc t.entries.map ((fun v => (key v, v)) ∘ (·.2)) = t.entries.map id :=
          List.map_congr_left fun e he => Prod.ext (keyed e he) rfl
      _ = t.entries := List.map_id _
  rw [listed, ofList_entries]

end Table

/-- And a set is the set of its keys. -/
theorem KeySet.ofList_keys {κ : Type} [Ord κ] [Std.TransOrd κ] [Std.LawfulEqOrd κ] [DecidableEq κ]
    (s : KeySet κ) : KeySet.ofList s.keys = s := by
  have listed : s.keys.map (fun k => (k, ())) = s.entries := by
    rw [Table.keys, List.map_map]
    exact List.map_id s.entries
  rw [KeySet.ofList, listed, Table.ofList_entries]

theorem KeySet.mem_keys_ofList {κ : Type} [Ord κ] [Std.TransOrd κ] [Std.LawfulEqOrd κ]
    [DecidableEq κ] {k : κ} {ks : List κ} : k ∈ (KeySet.ofList ks).keys ↔ k ∈ ks := by
  suffices all : ∀ s : KeySet κ,
      k ∈ ((ks.map fun k => (k, ())).foldl (fun s e => s.insert e.1 e.2) s).keys ↔
        k ∈ s.keys ∨ k ∈ ks from
    (all Table.empty).trans (or_iff_right List.not_mem_nil)
  induction ks with
  | nil => simp
  | cons k' ks ih =>
    intro s
    rw [List.map_cons, List.foldl_cons, ih, ← Table.contains_iff, Table.contains_insert,
      Table.contains_iff, List.mem_cons, or_comm (a := k = k'), or_assoc]

/-! ## Ledgers -/

namespace Ledger

variable {κ ν : Type} [DecidableEq κ] {l : Ledger κ ν} {k k' : κ} {v : ν}

theorem keys_set : (l.set k v).keys = if k ∈ l.keys then l.keys else l.keys ++ [k] :=
  keys_write k v l.entries

theorem mem_keys_set : k' ∈ (l.set k v).keys ↔ k' = k ∨ k' ∈ l.keys := by
  rw [keys_set]
  split
  next present =>
    constructor
    · exact .inr
    · rintro (rfl | h)
      · exact present
      · exact h
  next absent => simp [or_comm]

theorem size_set (absent : l.contains k = false) : (l.set k v).size = l.size + 1 := by
  have new : k ∉ l.keys := of_decide_eq_false absent
  have keys : (l.set k v).keys.length = (l.keys ++ [k]).length := by rw [keys_set, if_neg new]
  simpa [Ledger.keys, size] using keys

theorem write_of_absent {es : List (κ × ν)} (absent : k ∉ es.map (·.1)) :
    write k v es = es ++ [(k, v)] := by
  induction es with
  | nil => rfl
  | cons e es ih =>
    rw [List.map_cons, List.mem_cons, not_or] at absent
    rw [write, if_neg (Ne.symm absent.1), ih absent.2]
    rfl

/-- A new line is the last one. -/
theorem values_set (absent : l.contains k = false) : (l.set k v).values = l.values ++ [v] := by
  have written : (l.set k v).entries = l.entries ++ [(k, v)] :=
    write_of_absent (of_decide_eq_false absent)
  rw [values, written, List.map_append, values]
  rfl

/-- A list whose keys are distinct is written line by line. -/
theorem entries_ofList {es : List (κ × ν)} (distinct : (es.map (·.1)).Nodup) :
    (ofList es).entries = es := by
  suffices all : ∀ l : Ledger κ ν, ((l.entries ++ es).map (·.1)).Nodup →
      (es.foldl (fun l e => l.set e.1 e.2) l).entries = l.entries ++ es from all empty distinct
  clear distinct
  induction es with
  | nil => exact fun l _ => (List.append_nil _).symm
  | cons e es ih =>
    intro l distinct
    have absent : e.1 ∉ l.entries.map (·.1) := by
      rw [List.map_append, List.nodup_append] at distinct
      exact fun mem => distinct.2.2 _ mem _ List.mem_cons_self rfl
    have written : (l.set e.1 e.2).entries = l.entries ++ [e] := write_of_absent absent
    rw [List.foldl_cons, ih, written, List.append_assoc]
    · rfl
    · rw [written, List.append_assoc]
      exact distinct

/-- A ledger is the ledger of its entries. -/
theorem ofList_entries (l : Ledger κ ν) : ofList l.entries = l :=
  ext_entries (entries_ofList l.distinct)

theorem get?_eq_some_iff : l.get? k = some v ↔ (k, v) ∈ l.entries := by
  constructor
  · intro h
    obtain ⟨e, found, rfl⟩ := Option.map_eq_some_iff.1 h
    have key : e.1 = k := by simpa using List.find?_some found
    exact key ▸ List.mem_of_find?_eq_some found
  · intro h
    cases found : l.entries.find? fun e => e.1 = k with
    | none =>
      have := List.find?_eq_none.1 found _ h
      simp at this
    | some e =>
      have key : e.1 = k := by simpa using List.find?_some found
      have same : e = (k, v) :=
        List.inj_on_of_nodup_map l.distinct (List.mem_of_find?_eq_some found) h key
      rw [get?, found, same]
      rfl

/-- What a look-up finds besides the default is listed. -/
theorem mem_entries_of_getD_ne {d : ν} (h : l.getD k d ≠ d) : (k, l.getD k d) ∈ l.entries := by
  rw [getD] at h ⊢
  cases found : l.get? k with
  | none => simp [found] at h
  | some v => exact get?_eq_some_iff.1 found

variable [Ord κ] [Std.TransOrd κ] [Std.LawfulEqOrd κ]

omit [Std.TransOrd κ] in
/-- The lines that the entries of a table are written on have its keys. -/
theorem keys_ofList_entries (t : Table κ ν) : (ofList t.entries).keys = t.keys := by
  rw [Ledger.keys, entries_ofList t.nodup_keys, Table.keys]

theorem mem_entries_table {e : κ × ν} : e ∈ l.table.entries ↔ e ∈ l.entries := by
  rw [← Table.get?_eq_some_iff, table, Table.get?_ofList l.distinct]

end Ledger

end Terraforming
