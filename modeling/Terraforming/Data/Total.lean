/-!
# Totals

What the numbers of a list come to together.
-/

namespace Terraforming

/-- The sum of some numbers. -/
def total {α : Type} [Add α] [OfNat α 0] (ns : List α) : α := ns.foldr (· + ·) 0

@[simp] theorem total_nil {α : Type} [Add α] [OfNat α 0] : total ([] : List α) = 0 := rfl

@[simp] theorem total_cons {α : Type} [Add α] [OfNat α 0] (n : α) (ns : List α) :
    total (n :: ns) = n + total ns := rfl

theorem total_append (ns ms : List Int) : total (ns ++ ms) = total ns + total ms := by
  induction ns with
  | nil => simp
  | cons n ns ih => rw [List.cons_append, total_cons, total_cons, ih, Int.add_assoc]

theorem total_nonneg {ns : List Int} (h : ∀ n ∈ ns, 0 ≤ n) : 0 ≤ total ns := by
  induction ns with
  | nil => exact Int.le_refl 0
  | cons n ns ih =>
    rw [total_cons]
    exact Int.add_nonneg (h n List.mem_cons_self) (ih fun m hm => h m (List.mem_cons_of_mem n hm))

end Terraforming
