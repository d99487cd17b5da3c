import Terraforming.Data.Table

/-!
# Ledgers

A ledger is a finite map that remembers the order in which its keys were first written: writing a
key again changes its value and keeps its line.  Where the order does not matter, `table` forgets
it.
-/

namespace Terraforming

/-- A finite map in order of first writing. -/
structure Ledger (κ ν : Type) [DecidableEq κ] where
  entries : List (κ × ν)
  distinct : (entries.map (·.1)).Nodup

namespace Ledger

variable {κ ν : Type} [DecidableEq κ]

theorem ext_entries {a b : Ledger κ ν} (h : a.entries = b.entries) : a = b := by
  cases a; cases b; simp_all

instance [DecidableEq ν] : DecidableEq (Ledger κ ν) := fun a b =>
  decidable_of_iff (a.entries = b.entries) ⟨ext_entries, fun h => h ▸ rfl⟩

def empty : Ledger κ ν := ⟨[], .nil⟩

instance : EmptyCollection (Ledger κ ν) := ⟨empty⟩

instance : Inhabited (Ledger κ ν) := ⟨empty⟩

def keys (l : Ledger κ ν) : List κ := l.entries.map (·.1)

def values (l : Ledger κ ν) : List ν := l.entries.map (·.2)

def size (l : Ledger κ ν) : Nat := l.entries.length

def contains (l : Ledger κ ν) (k : κ) : Bool := k ∈ l.keys

def get? (l : Ledger κ ν) (k : κ) : Option ν := (l.entries.find? fun e => e.1 = k).map (·.2)

def getD (l : Ledger κ ν) (k : κ) (d : ν) : ν := (l.get? k).getD d

/-- Write `v` on the line of `k`, or on a new last line. -/
def write (k : κ) (v : ν) : List (κ × ν) → List (κ × ν)
  | [] => [(k, v)]
  | e :: es => if e.1 = k then (k, v) :: es else e :: write k v es

theorem keys_write (k : κ) (v : ν) : ∀ es : List (κ × ν),
    (write k v es).map (·.1) = if k ∈ es.map (·.1) then es.map (·.1) else es.map (·.1) ++ [k]
  | [] => by simp [write]
  | e :: es => by
    by_cases h : e.1 = k
    · simp [write, h]
    · have h' : k ≠ e.1 := fun e => h e.symm
      simp only [write, h, if_false, List.map_cons, keys_write k v es, List.mem_cons, h', false_or]
      split <;> simp

theorem distinct_write (k : κ) (v : ν) {es : List (κ × ν)} (h : (es.map (·.1)).Nodup) :
    ((write k v es).map (·.1)).Nodup := by
  rw [keys_write]
  split
  · exact h
  next absent =>
    refine List.nodup_append.2 ⟨h, by simp, fun a ha b hb => ?_⟩
    rintro rfl
    exact absent (List.mem_singleton.1 hb ▸ ha)

/-- The ledger with `v` under `k`. -/
def set (l : Ledger κ ν) (k : κ) (v : ν) : Ledger κ ν :=
  ⟨write k v l.entries, distinct_write k v l.distinct⟩

/-- The ledger that writing the pairs in turn leaves. -/
def ofList (es : List (κ × ν)) : Ledger κ ν := es.foldl (fun l e => l.set e.1 e.2) empty

/-- The same map without the order of its lines. -/
def table [Ord κ] [Std.TransOrd κ] (l : Ledger κ ν) : Table κ ν := Table.ofList l.entries

end Ledger

end Terraforming
