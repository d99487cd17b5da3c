import Terraforming.Player.Payment
import Terraforming.Proofs.Data.Except
import Terraforming.Proofs.Game.Regular

/-!
# Payments

A player whose effects take nothing from the value of metals can always be asked for a payment, and
a payment that is found takes no more of a resource than there is (`paymentFor_covered`).
-/

namespace Terraforming

namespace Player

variable {q : Player} {spent : Pool}

/-- The pool takes no more of a resource than the player has. -/
def Covers (q : Player) (spent : Pool) : Prop := ∀ r, spent.amount r ≤ q.balance (some r)

theorem Covers.insert (covers : q.Covers spent) {r : Resource} {n : Int}
    (hn : n ≤ q.balance (some r)) : q.Covers (spent.insert r n) := by
  intro r'
  rw [Pool.amount_insert]
  split
  next same =>
    rw [same]
    exact hn
  next => exact covers r'

theorem covers_empty (sound : q.Sound) : q.Covers ∅ := fun r => sound.balances r

/-- What is paid for a cost depends on the balances and the effects of a player, and on nothing else. -/
theorem paymentFor_congr {q q' : Player} (resources : q'.resources = q.resources)
    (effects : q'.effects = q.effects) (c : Cost) : q'.paymentFor c = q.paymentFor c := by
  have balance : ∀ r, q'.balance r = q.balance r := by
    intro r
    rw [balance, Player.balance, resources]
  have metals : q'.metals c = q.metals c := by
    simp only [metals, titaniumValue, steelValue, metalBonus, effectsOfType, effects]
  have spend : ∀ ms spent remaining, q'.spendMetals ms spent remaining =
      q.spendMetals ms spent remaining := by
    intro ms
    induction ms with
    | nil => exact fun _ _ => rfl
    | cons m ms ih =>
      intro spent remaining
      simp only [spendMetals, balance, ih]
  simp only [paymentFor, settle, balance, metals, spend]

theorem metalBonus_nonneg
    (worth : ∀ a ∈ q.effects, a.effect.type = .increasedMetalsValue → 0 ≤ a.effect.count) :
    0 ≤ q.metalBonus := by
  refine total_nonneg ?_
  intro n hn
  obtain ⟨a, ha, rfl⟩ := List.mem_map.1 hn
  obtain ⟨mem, type⟩ := List.mem_filter.1 ha
  exact worth a mem (of_decide_eq_true type)

theorem Fit.metalBonus (fit : q.Fit) : 0 ≤ q.metalBonus := by
  refine metalBonus_nonneg fun a ha type => ?_
  obtain ⟨c, -, ready⟩ := fit.effects a ha
  simp only [Effect.ready, type] at ready
  exact of_decide_eq_true ready

/-- Metals are worth something. -/
theorem metals_pos (bonus : 0 ≤ q.metalBonus) (c : Cost) : ∀ m ∈ q.metals c, 0 < m.2 := by
  intro m hm
  rcases List.mem_append.1 hm with hm | hm
  · split at hm
    · rw [List.mem_singleton.1 hm]
      simp only [titaniumValue]
      omega
    · cases hm
  · split at hm
    · rw [List.mem_singleton.1 hm]
      simp only [steelValue]
      omega
    · cases hm

/-- Worthless metals are the only ones that cannot be spent. -/
theorem spendMetals_eq_ok {metals : List (Resource × Int)} (worth : ∀ m ∈ metals, 0 < m.2)
    (spent : Pool) (remaining : Int) :
    ∃ answer, q.spendMetals metals spent remaining = .ok answer := by
  induction metals generalizing spent remaining with
  | nil => exact ⟨_, rfl⟩
  | cons m ms ih =>
    obtain ⟨metal, value⟩ := m
    have nonzero : value ≠ 0 := Int.ne_of_gt (worth _ List.mem_cons_self)
    have later : ∀ m ∈ ms, 0 < m.2 := fun m hm => worth m (List.mem_cons_of_mem _ hm)
    rw [spendMetals, if_neg nonzero]
    dsimp only
    split <;> exact ih later _ _

theorem spendMetals_covered {metals : List (Resource × Int)} {remaining : Int}
    {answer : Pool × Int} (covers : q.Covers spent)
    (h : q.spendMetals metals spent remaining = .ok answer) : q.Covers answer.1 := by
  induction metals generalizing spent remaining with
  | nil =>
    cases h
    exact covers
  | cons m ms ih =>
    obtain ⟨metal, value⟩ := m
    rw [spendMetals] at h
    split at h
    · cases h
    · dsimp only at h
      split at h
      · exact ih covers h
      · exact ih (covers.insert (Int.min_le_left _ _)) h

theorem settle_covered {remaining : Int} {payment : Pool} (covers : q.Covers spent)
    (h : q.settle spent remaining = some payment) : q.Covers payment := by
  unfold settle at h
  split at h
  · cases h
  next enough =>
    split at h
    · cases h
      exact covers
    · cases h
      exact covers.insert (Int.not_lt.1 enough)

/-- There is an answer to every cost. -/
theorem paymentFor_eq_ok (bonus : 0 ≤ q.metalBonus) (c : Cost) :
    ∃ answer, q.paymentFor c = .ok answer := by
  unfold paymentFor
  split
  · exact ⟨_, rfl⟩
  · obtain ⟨⟨spent, remaining⟩, hs⟩ :=
      spendMetals_eq_ok (q := q) (metals_pos bonus c) ∅ (c.amount : Int)
    simp only [hs, ok_bind]
    split
    · exact ⟨_, rfl⟩
    · split <;> exact ⟨_, rfl⟩

/-- A payment takes no more than there is. -/
theorem covers_of_paymentFor (sound : q.Sound) {c : Cost} {payment : Pool}
    (h : q.paymentFor c = .ok (some payment)) : q.Covers payment := by
  have nothing := covers_empty sound
  unfold paymentFor at h
  cases hd : c.currency.direct? with
  | some r =>
    simp only [hd] at h
    split at h
    · cases h
    next enough =>
      split at h
      · cases h
        exact nothing
      · cases h
        exact nothing.insert (Int.not_lt.1 enough)
  | none =>
    simp only [hd] at h
    obtain ⟨⟨spent, remaining⟩, hs, h⟩ := bind_eq_ok.1 h
    have covers := spendMetals_covered nothing hs
    dsimp only at h
    split at h
    · exact settle_covered covers (Except.ok.inj h)
    · split at h
      · cases h
      next metal value found =>
        have less : spent.amount metal < q.balance (some metal) := by
          simpa using List.find?_some found
        exact settle_covered (covers.insert (Int.add_one_le_of_lt less)) (Except.ok.inj h)

/-- There is an answer to every cost, and a payment takes no more than there is. -/
theorem paymentFor_covered (sound : q.Sound) (fit : q.Fit) (c : Cost) :
    ∃ answer, q.paymentFor c = .ok answer ∧
      ∀ payment, answer = some payment → q.Covers payment := by
  obtain ⟨answer, ha⟩ := paymentFor_eq_ok fit.metalBonus c
  refine ⟨answer, ha, ?_⟩
  rintro payment rfl
  exact covers_of_paymentFor sound ha

end Player

end Terraforming
