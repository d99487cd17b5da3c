import Mathlib.Data.List.Forall2

/-!
# Computations that may fail

When a computation in `Except` succeeds, read off its parts: a bind succeeds exactly when both of
its halves do (`bind_eq_ok`), and a guard succeeds exactly when it holds and the rest succeeds
(`ite_error_eq_ok`).  With these, what a checked change of the game does is a matter of rewriting.

Where both endings matter, `Gives` says what can be said of an answer and what of a fault, and it is put
together part by part as the computation is.
-/

namespace Terraforming

variable {ε ε' α β : Type} {e : ε} {a : α} {b : β} {x : Except ε α}

/-! ## Computing -/

@[simp] theorem throw_eq_error : (throw e : Except ε α) = .error e := rfl

@[simp] theorem pure_eq_ok : (pure a : Except ε α) = .ok a := rfl

@[simp] theorem ok_bind {f : α → Except ε β} : (Except.ok a >>= f) = f a := rfl

@[simp] theorem error_bind {f : α → Except ε β} : (Except.error e >>= f) = .error e := rfl

/-! ## Reading a success -/

@[simp] theorem bind_eq_ok {f : α → Except ε β} :
    x >>= f = .ok b ↔ ∃ a, x = .ok a ∧ f a = .ok b := by
  cases x <;> simp

@[simp] theorem map_eq_ok {f : α → β} : x.map f = .ok b ↔ ∃ a, x = .ok a ∧ f a = b := by
  cases x <;> simp [Except.map]

@[simp] theorem mapError_eq_ok {f : ε → ε'} : x.mapError f = .ok a ↔ x = .ok a := by
  cases x <;> simp [Except.mapError]

theorem map_eq_error {f : α → β} : x.map f = .error e ↔ x = .error e := by
  cases x <;> simp [Except.map]

@[simp] theorem ite_error_eq_ok {c : Prop} [Decidable c] :
    (if c then .error e else x) = .ok a ↔ ¬c ∧ x = .ok a := by
  by_cases h : c <;> simp [h]

@[simp] theorem ite_ok_eq_ok {c : Prop} [Decidable c] :
    (if c then x else .error e) = .ok a ↔ c ∧ x = .ok a := by
  by_cases h : c <;> simp [h]

theorem toOption_eq_some : x.toOption = some a ↔ x = .ok a := by
  cases x <;> simp [Except.toOption]

/-! ## Both endings -/

/-- What the computation answers has `P`, and what it fails with has `F`. -/
def Gives (x : Except ε α) (P : α → Prop) (F : ε → Prop) : Prop :=
  match x with
  | .ok a => P a
  | .error e => F e

namespace Gives

variable {P Q : α → Prop} {R : β → Prop} {F G : ε → Prop}

theorem ok (h : P a) : Gives (.ok a) P F := h

theorem error (h : F e) : Gives (.error e) P F := h

/-- Only the answer matters. -/
theorem of_holds (h : ∀ a, x = .ok a → P a) : Gives x P fun _ => True := by
  cases x with
  | ok a => exact h a rfl
  | error e => trivial

theorem holds (h : Gives x P F) (hx : x = .ok a) : P a := by
  rw [hx] at h
  exact h

theorem fails (h : Gives x P F) (hx : x = .error e) : F e := by
  rw [hx] at h
  exact h

theorem bind {f : α → Except ε β} (h : Gives x P F) (then_ : ∀ a, P a → Gives (f a) R F) :
    Gives (x >>= f) R F := by
  cases x with
  | ok a => exact then_ a h
  | error e => exact h

theorem mono (h : Gives x P F) (more : ∀ a, P a → Q a) : Gives x Q F := by
  cases x with
  | ok a => exact more a h
  | error e => exact h

theorem imp (h : Gives x P F) (other : ∀ e, F e → G e) : Gives x P G := by
  cases x with
  | ok a => exact h
  | error e => exact other e h

theorem map {f : α → β} (h : Gives x (fun a => R (f a)) F) : Gives (x.map f) R F := by
  cases x with
  | ok a => exact h
  | error e => exact h

theorem ite {c : Prop} [Decidable c] {y : Except ε α} (hx : Gives x P F) (hy : Gives y P F) :
    Gives (if c then x else y) P F := by
  split
  · exact hx
  · exact hy

end Gives

/-! ## Lists -/

/-- A list is mapped when every member is. -/
theorem mapM_eq_ok {f : α → Except ε β} {as : List α} {bs : List β} :
    as.mapM f = .ok bs ↔ List.Forall₂ (fun a b => f a = .ok b) as bs := by
  induction as generalizing bs with
  | nil => cases bs <;> simp
  | cons a as ih => simp [List.mapM_cons, List.forall₂_cons_left_iff, ih, @eq_comm _ bs]

/-- What a list is mapped to are the answers on its members. -/
theorem mem_of_mapM_eq_ok {f : α → Except ε β} {as : List α} {bs : List β}
    (h : as.mapM f = .ok bs) : b ∈ bs ↔ ∃ a ∈ as, f a = .ok b := by
  have related := mapM_eq_ok.1 h
  clear h
  induction related with
  | nil => simp
  | cons first _ ih => simp [ih, first, eq_comm]

theorem mapM_congr {f g : α → Except ε β} {as : List α} (h : ∀ a ∈ as, f a = g a) :
    as.mapM f = as.mapM g := by
  induction as with
  | nil => rfl
  | cons a as ih =>
    rw [List.mapM_cons, List.mapM_cons, h a List.mem_cons_self,
      ih fun a' ha' => h a' (List.mem_cons_of_mem a ha')]

/-- A list can be mapped by what answers on every member. -/
theorem exists_mapM_eq_ok {f : α → Except ε β} {R : α → β → Prop} {as : List α}
    (h : ∀ a ∈ as, ∃ b, f a = .ok b ∧ R a b) :
    ∃ bs, as.mapM f = .ok bs ∧ List.Forall₂ R as bs := by
  induction as with
  | nil => exact ⟨[], rfl, .nil⟩
  | cons a as ih =>
    obtain ⟨b, hb, related⟩ := h a List.mem_cons_self
    obtain ⟨bs, hbs, rest⟩ := ih fun a' ha' => h a' (List.mem_cons_of_mem a ha')
    exact ⟨b :: bs, mapM_eq_ok.2 (.cons hb (mapM_eq_ok.1 hbs)), .cons related rest⟩

/-- A list can be mapped by what answers on every member, whatever it answers. -/
theorem mapM_total {f : α → Except ε β} {as : List α} (h : ∀ a ∈ as, ∃ b, f a = .ok b) :
    ∃ bs, as.mapM f = .ok bs := by
  obtain ⟨bs, hbs, -⟩ := exists_mapM_eq_ok (R := fun _ _ => True) fun a ha =>
    (h a ha).imp fun _ hb => ⟨hb, trivial⟩
  exact ⟨bs, hbs⟩

/-- A list can be mapped exactly by what answers on every member. -/
theorem mapM_answers_iff {f : α → Except ε β} {as : List α} :
    (∃ bs, as.mapM f = .ok bs) ↔ ∀ a ∈ as, ∃ b, f a = .ok b := by
  refine ⟨?_, mapM_total⟩
  rintro ⟨bs, hbs⟩
  have related := mapM_eq_ok.1 hbs
  clear hbs
  induction related with
  | nil => exact List.forall_mem_nil _
  | cons first _ ih => exact List.forall_mem_cons.2 ⟨⟨_, first⟩, ih⟩

/-- A value that is made of another one is there exactly when that is. -/
theorem bind_pure_answers_iff {f : α → β} :
    (∃ b, (x >>= fun a => (pure (f a) : Except ε β)) = .ok b) ↔ ∃ a, x = .ok a := by
  cases x <;> simp

/-- Mapping a list fails as it does on the first member on which it does. -/
theorem mapM_eq_error {f : α → Except ε β} {as : List α} :
    as.mapM f = .error e ↔ ∃ before a after, as = before ++ a :: after ∧
      (∀ b ∈ before, ∃ c, f b = .ok c) ∧ f a = .error e := by
  induction as with
  | nil => simp
  | cons a as ih =>
    rw [List.mapM_cons]
    cases ha : f a with
    | error e' =>
      rw [error_bind]
      constructor
      · intro h
        cases h
        exact ⟨[], a, as, rfl, List.forall_mem_nil _, ha⟩
      · rintro ⟨before, a', after, split, fine, he⟩
        cases before with
        | nil =>
          cases split
          cases ha.symm.trans he
          rfl
        | cons b before =>
          cases split
          obtain ⟨c, hc⟩ := fine a List.mem_cons_self
          cases ha.symm.trans hc
    | ok b =>
      have rest : (as.mapM f >>= fun bs => pure (b :: bs)) = .error e ↔ as.mapM f = .error e := by
        cases as.mapM f <;> simp
      rw [ok_bind, rest, ih]
      constructor
      · rintro ⟨before, a', after, rfl, fine, he⟩
        exact ⟨a :: before, a', after, rfl, List.forall_mem_cons.2 ⟨⟨b, ha⟩, fine⟩, he⟩
      · rintro ⟨before, a', after, split, fine, he⟩
        cases before with
        | nil =>
          cases split
          cases ha.symm.trans he
        | cons b before =>
          cases split
          exact ⟨before, a', after, rfl, (List.forall_mem_cons.1 fine).2, he⟩

theorem filterAuxM_eq_ok {f : α → Except ε Bool} {as acc bs : List α} :
    as.filterAuxM f acc = .ok bs ↔ (∀ a ∈ as, ∃ b, f a = .ok b) ∧
      (as.filter fun a => (f a).toOption = some true).reverse ++ acc = bs := by
  induction as generalizing acc with
  | nil => simp [List.filterAuxM]
  | cons a as ih =>
    rw [List.filterAuxM, List.forall_mem_cons]
    cases h : f a with
    | error e => simp
    | ok b => cases b <;> simp [ih, h, Except.toOption]

/-- A list is filtered by a check that answers on every member, and only by such a check. -/
theorem filterM_eq_ok {f : α → Except ε Bool} {as bs : List α} :
    as.filterM f = .ok bs ↔ (∀ a ∈ as, ∃ b, f a = .ok b) ∧
      (as.filter fun a => (f a).toOption = some true) = bs := by
  simp [List.filterM, filterAuxM_eq_ok]

/-- A list can be filtered by a check that answers on every member. -/
theorem filterM_total {f : α → Except ε Bool} {as : List α} (h : ∀ a ∈ as, ∃ b, f a = .ok b) :
    ∃ bs, as.filterM f = .ok bs :=
  ⟨_, filterM_eq_ok.2 ⟨h, rfl⟩⟩

/-- A list cannot be filtered by a check that fails on a member, and on others only in the same way. -/
theorem filterM_eq_error {f : α → Except ε Bool} {as : List α} {a : α}
    (only : ∀ a ∈ as, ∀ e', f a = .error e' → e' = e) (ha : a ∈ as) (h : f a = .error e) :
    as.filterM f = .error e := by
  have all : ∀ acc, as.filterAuxM f acc = .error e := by
    induction as with
    | nil => cases ha
    | cons a' as ih =>
      intro acc
      rw [List.filterAuxM]
      obtain ⟨first, rest⟩ := List.forall_mem_cons.1 only
      cases h' : f a' with
      | error e' =>
        obtain rfl := first e' h'
        rfl
      | ok b =>
        rcases List.mem_cons.1 ha with rfl | ha
        · rw [h] at h'
          cases h'
        · exact ih rest ha _
  rw [List.filterM, all]
  rfl

end Terraforming
