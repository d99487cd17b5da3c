import Terraforming.Proofs.Game.Commands

/-!
# The log

Operations run one after the other (`executeAll_append`), and the log gains exactly those that are
accepted (`log_execute`, `log_executeAll`): a command itself leaves the log alone (`log_run`).
-/

namespace Terraforming

namespace Game

variable {g g' g'' : Game} {o : Operation} {xs ys : List Operation}

/-! ## Running operations -/

theorem executeAll_append (g : Game) (xs ys : List Operation) :
    g.executeAll (xs ++ ys) = (g.executeAll xs).andThen fun g' => g'.executeAll ys := by
  induction xs generalizing g with
  | nil => rfl
  | cons o os ih =>
    rw [List.cons_append, executeAll, executeAll]
    cases g.execute o with
    | accepted g' => exact ih g'
    | refused f g' => rfl

/-- Two accepted stretches make one. -/
theorem executeAll_trans (hx : g.executeAll xs = .accepted g')
    (hy : g'.executeAll ys = .accepted g'') : g.executeAll (xs ++ ys) = .accepted g'' := by
  rw [executeAll_append, hx]
  exact hy

/-- Two stretches are accepted when the second is after the first. -/
theorem executeAll_append_eq_accepted {xs ys : List Operation} :
    g.executeAll (xs ++ ys) = .accepted g' ↔
      ∃ g₁, g.executeAll xs = .accepted g₁ ∧ g₁.executeAll ys = .accepted g' := by
  rw [executeAll_append]
  cases g.executeAll xs <;> simp [Outcome.andThen]

theorem executeAll_cons_eq_accepted {os : List Operation} :
    g.executeAll (o :: os) = .accepted g' ↔
      ∃ g₁, g.execute o = .accepted g₁ ∧ g₁.executeAll os = .accepted g' := by
  rw [executeAll]
  cases g.execute o <;> simp [Outcome.andThen]

/-- **A run of operations that are accepted** keeps what each of them keeps. -/
theorem executeAll_keeps {os : List Operation} {I : Game → Prop} (h : g.executeAll os = .accepted g')
    (step : ∀ o ∈ os, ∀ h h' : Game, I h → h.execute o = .accepted h' → I h') (start : I g) :
    I g' := by
  induction os generalizing g with
  | nil =>
    cases h
    exact start
  | cons o os ih =>
    obtain ⟨first, rest⟩ := List.forall_mem_cons.1 step
    obtain ⟨g₁, ho, hos⟩ := executeAll_cons_eq_accepted.1 h
    exact ih hos rest (first g g₁ start ho)

/-- A run that may end with a refusal keeps what each operation keeps, accepted or not. -/
theorem game_executeAll_keeps {os : List Operation} {I : Game → Prop}
    (step : ∀ o ∈ os, ∀ h : Game, I h → I (h.execute o).game) (start : I g) :
    I (g.executeAll os).game := by
  induction os generalizing g with
  | nil => exact start
  | cons o os ih =>
    obtain ⟨first, rest⟩ := List.forall_mem_cons.1 step
    have next := first g start
    rw [executeAll]
    cases ho : g.execute o with
    | accepted g₁ =>
      rw [ho] at next
      exact ih rest next
    | refused f left =>
      rw [ho] at next
      exact next

/-- A run that is refused stops at one of its operations, and those before it are accepted. -/
theorem executeAll_eq_refused {os : List Operation} {f : Fault} {left : Game}
    (h : g.executeAll os = .refused f left) :
    ∃ pre o post g₁, os = pre ++ o :: post ∧ g.executeAll pre = .accepted g₁ ∧
      g₁.execute o = .refused f left := by
  induction os generalizing g with
  | nil => cases h
  | cons o os ih =>
    rw [executeAll] at h
    cases ho : g.execute o with
    | accepted g₁ =>
      rw [ho] at h
      obtain ⟨pre, o', post, g₂, rfl, before, refused⟩ := ih h
      exact ⟨o :: pre, o', post, g₂, rfl, executeAll_cons_eq_accepted.2 ⟨g₁, ho, before⟩, refused⟩
    | refused f' left' =>
      rw [ho] at h
      cases h
      exact ⟨[], o, os, g, rfl, rfl, ho⟩

theorem executeAll_singleton (h : g.execute o = .accepted g') :
    g.executeAll [o] = .accepted g' := by
  rw [executeAll, h]
  rfl

theorem toExcept_eq_ok {r : Outcome} : r.toExcept = .ok g ↔ r = .accepted g := by
  cases r <;> simp [Outcome.toExcept]

theorem toExcept_executeAll_cons (g : Game) (o : Operation) (os : List Operation) :
    (g.executeAll (o :: os)).toExcept =
      (g.execute o).toExcept >>= fun g' => (g'.executeAll os).toExcept := by
  rw [executeAll]
  cases g.execute o <;> rfl

/-- What ends a generation is production by everyone and two operations more. -/
theorem forall_generationEnd {P : Operation → Prop} (g : Game) (produce : ∀ p, P (.produce p))
    (reset : P .resetCardActions) (advance : P .advanceGeneration) : ∀ o ∈ g.generationEnd, P o := by
  refine List.forall_mem_append.2 ⟨?_, ?_⟩
  · intro o ho
    obtain ⟨p, -, rfl⟩ := List.mem_map.1 ho
    exact produce p
  · exact List.forall_mem_cons.2 ⟨reset, List.forall_mem_singleton.2 advance⟩

/-! ## What the log gains -/

/-- A command changes the game and leaves the log alone. -/
theorem log_run {c : Command} (h : g.run c = .ok g') : g'.log = g.log := by
  cases run_iff.1 h with
  | discarded hq =>
    exact discardAll_keeps (I := fun h => h.log = g.log) _ hq (fun _ _ _ _ _ same => same) rfl
  | _ => rfl

/-- An operation is accepted exactly when it is complete and its command is carried out; then the
log gains it. -/
theorem execute_eq_accepted :
    g.execute o = .accepted g' ↔
      ∃ c g₁, o.command? = .ok c ∧ g.run c = .ok g₁ ∧ { g₁ with log := g₁.log ++ [o] } = g' := by
  unfold execute
  cases o.command? with
  | error v => simp
  | ok c =>
    cases hr : g.run c with
    | error f => simp [hr]
    | ok g₁ => simp [hr]

/-- A refusal leaves the game as it was, or as discarding has left it. -/
theorem left_of_refused {f : Fault} (h : g.execute o = .refused f g') :
    g' = g ∨ ∃ p q cards, g.player? p = some q ∧ g' = (discardAll p cards q g).game := by
  unfold execute at h
  split at h
  next =>
    cases h
    exact .inl rfl
  next c hc =>
    split at h
    next => cases h
    next =>
      cases h
      cases c with
      | discardCards p cards =>
        simp only [leftBy]
        split
        next q hq => exact .inr ⟨p, q, cards, hq, rfl⟩
        next => exact .inl rfl
      | _ => exact .inl rfl

/-- The production of a player is refused as a whole. -/
theorem left_of_produce_refused {p : PlayerId} {f : Fault} (h : g.execute (.produce p) = .refused f g') :
    g' = g := by
  have read : (Operation.produce p).command? = .ok (.produce p) := rfl
  rw [execute, read] at h
  dsimp only at h
  split at h
  · cases h
  · cases h
    rfl

/-- However far the end of a generation gets, that much of it is accepted. -/
theorem exists_advance (g : Game) :
    ∃ os, os <+: g.generationEnd ∧ g.executeAll os = .accepted g.advance.game := by
  rw [advance]
  cases h : g.executeAll g.generationEnd with
  | accepted g' => exact ⟨g.generationEnd, List.prefix_refl _, h⟩
  | refused f left =>
    obtain ⟨pre, o, post, g₁, split, before, refused⟩ := executeAll_eq_refused h
    have all : ∀ o ∈ g.generationEnd, (∃ p, o = .produce p) ∨
        o = .resetCardActions ∨ o = .advanceGeneration :=
      g.forall_generationEnd (fun p => .inl ⟨p, rfl⟩) (.inr (.inl rfl)) (.inr (.inr rfl))
    have listed : o ∈ g.generationEnd := by simp [split]
    have left_eq : left = g₁ := by
      rcases all o listed with ⟨p, rfl⟩ | rfl | rfl
      · exact left_of_produce_refused refused
      · cases refused
      · cases refused
    exact ⟨pre, ⟨o :: post, split.symm⟩, left_eq ▸ before⟩

theorem log_execute (h : g.execute o = .accepted g') : g'.log = g.log ++ [o] := by
  obtain ⟨c, g₁, -, hr, rfl⟩ := execute_eq_accepted.1 h
  rw [← log_run hr]

theorem log_executeAll (h : g.executeAll xs = .accepted g') : g'.log = g.log ++ xs := by
  induction xs generalizing g with
  | nil =>
    cases h
    simp
  | cons o os ih =>
    rw [executeAll] at h
    cases ho : g.execute o with
    | accepted g₁ =>
      rw [ho] at h
      rw [ih h, log_execute ho, List.append_assoc, List.singleton_append]
    | refused f g₁ =>
      rw [ho] at h
      exact absurd h (by simp [Outcome.andThen])

end Game

end Terraforming
