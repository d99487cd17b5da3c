import Mathlib.Data.List.Forall2
import Mathlib.Data.List.Nodup

/-!
# Enumerations

A search lists one value for each of the ways that lead to one.  `Enumerates before R ys` says so
of a list `ys`, when `R k y` says that the way `k` leads to `y`: every value has its way, no way is
missing, and the ways come in the order `before`.  Where `before` excludes equal ways, each comes
once.

The lemmas follow the shapes of a search: nothing, one value, two lists, and a list for each member
of a list.
-/

namespace Terraforming

variable {κ κ' ι α β : Type}

/-! ## Lists side by side -/

theorem exists_right_of_forall₂ {R : α → β → Prop} {as : List α} {bs : List β}
    (h : List.Forall₂ R as bs) {a : α} (ha : a ∈ as) : ∃ b ∈ bs, R a b := by
  induction h with
  | nil => cases ha
  | cons first _ ih =>
    rcases List.mem_cons.1 ha with rfl | ha
    · exact ⟨_, List.mem_cons_self, first⟩
    · obtain ⟨b, hb, related⟩ := ih ha
      exact ⟨b, List.mem_cons_of_mem _ hb, related⟩

theorem exists_left_of_forall₂ {R : α → β → Prop} {as : List α} {bs : List β}
    (h : List.Forall₂ R as bs) {b : β} (hb : b ∈ bs) : ∃ a ∈ as, R a b :=
  exists_right_of_forall₂ h.flip hb

theorem forall₂_comp {γ : Type} {R : α → β → Prop} {S : β → γ → Prop} {T : α → γ → Prop}
    {as : List α} {bs : List β} {cs : List γ} (h : ∀ a b c, R a b → S b c → T a c)
    (first : List.Forall₂ R as bs) (second : List.Forall₂ S bs cs) : List.Forall₂ T as cs := by
  induction first generalizing cs with
  | nil =>
    cases second
    exact .nil
  | cons related _ ih =>
    cases second with
    | cons related' rest => exact .cons (h _ _ _ related related') (ih rest)

/-! ## Enumerations -/

/-- The list holds the values of all keys that have one, in an order of the keys. -/
def Enumerates (before : κ → κ → Prop) (R : κ → α → Prop) (ys : List α) : Prop :=
  ∃ keys : List κ, keys.Pairwise before ∧ List.Forall₂ R keys ys ∧ ∀ k y, R k y → k ∈ keys

namespace Enumerates

variable {before before' : κ → κ → Prop} {R R₁ R₂ : κ → α → Prop} {ys ys₁ ys₂ : List α}

theorem nil (none : ∀ k y, ¬R k y) : Enumerates before R [] :=
  ⟨[], .nil, .nil, fun k y h => absurd h (none k y)⟩

theorem singleton {k : κ} {y : α} (h : R k y) (only : ∀ k' y', R k' y' → k' = k) :
    Enumerates before R [y] :=
  ⟨[k], List.pairwise_singleton _ k, .cons h .nil, fun k' y' h' =>
    List.mem_singleton.2 (only k' y' h')⟩

theorem congr (h : Enumerates before R₁ ys) (same : ∀ k y, R₁ k y ↔ R₂ k y) :
    Enumerates before R₂ ys := by
  obtain ⟨keys, order, values, every⟩ := h
  exact ⟨keys, order, values.imp fun k y => (same k y).1, fun k y hk => every k y ((same k y).2 hk)⟩

/-- A weaker order, as far as keys that have a value are concerned. -/
theorem order_mono (h : Enumerates before R ys)
    (weaker : ∀ k k' y y', R k y → R k' y' → before k k' → before' k k') :
    Enumerates before' R ys := by
  obtain ⟨keys, order, values, every⟩ := h
  refine ⟨keys, order.imp_of_mem fun hk hk' => ?_, values, every⟩
  obtain ⟨y, -, hy⟩ := exists_right_of_forall₂ values hk
  obtain ⟨y', -, hy'⟩ := exists_right_of_forall₂ values hk'
  exact weaker _ _ y y' hy hy'

/-- Every listed value has a key. -/
theorem exists_key (h : Enumerates before R ys) {y : α} (hy : y ∈ ys) : ∃ k, R k y := by
  obtain ⟨keys, -, values, -⟩ := h
  obtain ⟨k, -, hk⟩ := exists_left_of_forall₂ values hy
  exact ⟨k, hk⟩

/-- The value of every key is listed, if it has no other. -/
theorem mem (h : Enumerates before R ys) {k : κ} {y : α} (hk : R k y)
    (unique : ∀ y', R k y' → y' = y) : y ∈ ys := by
  obtain ⟨keys, -, values, every⟩ := h
  obtain ⟨y', listed, hy'⟩ := exists_right_of_forall₂ values (every k y hk)
  exact unique y' hy' ▸ listed

/-- The ways to go on from a first step are ways of the whole. -/
theorem map_keys {f : κ' → κ} {before' : κ' → κ' → Prop} {R' : κ' → α → Prop}
    (h : Enumerates before' R' ys) (mono : ∀ k k', before' k k' → before (f k) (f k')) :
    Enumerates before (fun k y => ∃ k', f k' = k ∧ R' k' y) ys := by
  obtain ⟨keys, order, values, every⟩ := h
  refine ⟨keys.map f, order.map f mono, ?_, ?_⟩
  · exact List.forall₂_map_left_iff.2 (values.imp fun k y hk => ⟨k, rfl, hk⟩)
  · rintro k y ⟨k', rfl, hk⟩
    exact List.mem_map_of_mem (every k' y hk)

theorem append (h₁ : Enumerates before R₁ ys₁) (h₂ : Enumerates before R₂ ys₂)
    (apart : ∀ k₁ y₁ k₂ y₂, R₁ k₁ y₁ → R₂ k₂ y₂ → before k₁ k₂) :
    Enumerates before (fun k y => R₁ k y ∨ R₂ k y) (ys₁ ++ ys₂) := by
  obtain ⟨keys₁, order₁, values₁, every₁⟩ := h₁
  obtain ⟨keys₂, order₂, values₂, every₂⟩ := h₂
  refine ⟨keys₁ ++ keys₂, List.pairwise_append.2 ⟨order₁, order₂, fun k₁ hk₁ k₂ hk₂ => ?_⟩, ?_, ?_⟩
  · obtain ⟨y₁, -, hy₁⟩ := exists_right_of_forall₂ values₁ hk₁
    obtain ⟨y₂, -, hy₂⟩ := exists_right_of_forall₂ values₂ hk₂
    exact apart k₁ y₁ k₂ y₂ hy₁ hy₂
  · exact List.rel_append (values₁.imp fun k y => .inl) (values₂.imp fun k y => .inr)
  · rintro k y (hk | hk)
    · exact List.mem_append_left _ (every₁ k y hk)
    · exact List.mem_append_right _ (every₂ k y hk)

/-- A list for each member of a list. -/
theorem flatten {xs : List ι} {yss : List (List α)} {R : ι → κ → α → Prop}
    (each : List.Forall₂ (fun x ys => Enumerates before (R x) ys) xs yss)
    (apart : xs.Pairwise fun x x' => ∀ k y k' y', R x k y → R x' k' y' → before k k') :
    Enumerates before (fun k y => ∃ x ∈ xs, R x k y) yss.flatten := by
  induction each with
  | nil => exact .nil fun k y h => nomatch h.choose_spec.1
  | @cons x ys xs yss first _ ih =>
    rw [List.pairwise_cons] at apart
    refine (first.append (ih apart.2) ?_).congr fun k y => ?_
    · rintro k y k' y' hk ⟨x', hx', hk'⟩
      exact apart.1 x' hx' k y k' y' hk hk'
    · simp

end Enumerates

end Terraforming
