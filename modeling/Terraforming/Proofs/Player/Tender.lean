import Mathlib.Algebra.Order.Ring.Int
import Mathlib.Data.List.Pairwise
import Mathlib.Tactic.Ring
import Terraforming.Proofs.Player.Payment

/-!
# What payments are worth

A payment that is found is no larger than it must be, and one is found whenever there is one
(`payments_without_waste`).  Metals are spent one after the other on what remains of the amount, and
what is known after each of them (`Spent`) is that either all of it is gone or less remains than
one unit of it is worth.  So a metal that is left over always closes the gap with a single unit, and
where none is left over everything that counts is spent.
-/

namespace Terraforming

/-! ## Worth -/

namespace Pool

variable {p p' : Pool} {r r' : Resource} {n k v : Int} {vs ws : List (Resource × Int)}

/-- What the pool comes to when a unit of each resource counts as much as is said. -/
def worth (p : Pool) (vs : List (Resource × Int)) : Int :=
  total (vs.map fun v => p.amount v.1 * v.2)

theorem worth_append : p.worth (vs ++ ws) = p.worth vs + p.worth ws := by
  rw [worth, List.map_append, total_append]
  rfl

theorem worth_le (pos : ∀ v ∈ vs, 0 < v.2) (less : ∀ v ∈ vs, p.amount v.1 ≤ p'.amount v.1) :
    p.worth vs ≤ p'.worth vs := by
  induction vs with
  | nil => exact Int.le_refl 0
  | cons v vs ih =>
    obtain ⟨pos, later⟩ := List.forall_mem_cons.1 pos
    obtain ⟨first, rest⟩ := List.forall_mem_cons.1 less
    exact Int.add_le_add (Int.mul_le_mul_of_nonneg_right first pos.le) (ih later rest)

theorem worth_insert_of_notMem (absent : r ∉ vs.map (·.1)) :
    worth (p.insert r n) vs = p.worth vs := by
  refine congrArg total (List.map_congr_left fun v hv => ?_)
  have other : v.1 ≠ r := fun same => absent (same ▸ List.mem_map.2 ⟨v, hv, rfl⟩)
  rw [amount_insert, if_neg other]

/-- The worth changes by the units that one resource gains, at its value. -/
theorem worth_insert (hv : (r, v) ∈ vs) (distinct : (vs.map (·.1)).Nodup) :
    worth (p.insert r n) vs = p.worth vs + (n - p.amount r) * v := by
  induction vs with
  | nil => cases hv
  | cons w vs ih =>
    obtain ⟨absent, distinct⟩ := List.nodup_cons.1 distinct
    show amount (p.insert r n) w.1 * w.2 + worth (p.insert r n) vs =
      p.amount w.1 * w.2 + p.worth vs + (n - p.amount r) * v
    rcases List.mem_cons.1 hv with rfl | hv
    · rw [worth_insert_of_notMem absent, amount_insert, if_pos rfl]
      ring
    · have other : w.1 ≠ r := by
        rintro rfl
        exact absent (List.mem_map.2 ⟨_, hv, rfl⟩)
      rw [ih hv distinct, amount_insert, if_neg other]
      ring

theorem amount_of_get? (there : p.get? r = some n) : p.amount r = n := by
  rw [amount, Table.getD, there]
  rfl

theorem amount_of_absent (absent : p.get? r = none) : p.amount r = 0 := by
  rw [amount, Table.getD, absent]
  rfl

theorem worth_lower (hv : (r, v) ∈ vs) (distinct : (vs.map (·.1)).Nodup)
    (there : p.get? r = some n) : worth (p.insert r (n - 1)) vs = p.worth vs - v := by
  rw [worth_insert hv distinct, amount_of_get? there]
  ring

/-! ## Recording what is paid -/

/-- The pool with `n` of `r` written into it, unless that is nothing. -/
def record (p : Pool) (r : Resource) (n : Int) : Pool := if n = 0 then p else p.insert r n

theorem amount_record (absent : p.get? r = none) (r' : Resource) :
    (p.record r n).amount r' = if r' = r then n else p.amount r' := by
  unfold record
  split
  next nothing =>
    split
    next same => rw [same, amount_of_absent absent, nothing]
    next => rfl
  next => exact amount_insert p r r' n

theorem get?_record (there : (p.record r n).get? r' = some k) :
    (r' = r ∧ k = n ∧ n ≠ 0) ∨ p.get? r' = some k := by
  unfold record at there
  split at there
  next => exact .inr there
  next some =>
    rw [Table.get?_insert] at there
    split at there
    next same =>
      cases there
      exact .inl ⟨same, rfl, some⟩
    next => exact .inr there

theorem worth_record (hv : (r, v) ∈ vs) (distinct : (vs.map (·.1)).Nodup)
    (absent : p.get? r = none) : (p.record r n).worth vs = p.worth vs + n * v := by
  unfold record
  split
  next nothing => rw [nothing, Int.zero_mul, Int.add_zero]
  next => rw [worth_insert hv distinct, amount_of_absent absent, Int.sub_zero]

theorem worth_record_of_notMem (absent : r ∉ vs.map (·.1)) :
    (p.record r n).worth vs = p.worth vs := by
  unfold record
  split
  · rfl
  · exact worth_insert_of_notMem absent

end Pool

namespace Player

variable {q : Player} {c : Cost} {k : CostClass} {amount remaining : Int} {spent payment : Pool}
  {m : Resource × Int} {done ms : List (Resource × Int)}

/-! ## Offers -/

/-- What a cost of a class can be paid with, and what a unit of each counts for. -/
def tender (q : Player) : CostClass → List (Resource × Int)
  | .megacredits => [(.megacredits, 1)]
  | .building => [(.steel, q.steelValue), (.megacredits, 1)]
  | .space => [(.titanium, q.titaniumValue), (.megacredits, 1)]
  | .spaceOrBuilding =>
    [(.titanium, q.titaniumValue), (.steel, q.steelValue), (.megacredits, 1)]
  | .steel => [(.steel, 1)]
  | .titanium => [(.titanium, 1)]
  | .plants => [(.plants, 1)]
  | .energy => [(.energy, 1)]
  | .heat => [(.heat, 1)]

/-- Some of what the player has and a cost of the class accepts. -/
structure Offers (q : Player) (k : CostClass) (offer : Pool) : Prop where
  accepted : ∀ r, offer.amount r ≠ 0 → r ∈ (q.tender k).map (·.1)
  nonneg : ∀ r, 0 ≤ offer.amount r
  held : ∀ r, offer.amount r ≤ q.balance (some r)

/-- A payment that is enough for a cost, and would not be with one unit less of anything. -/
structure Pays (q : Player) (c : Cost) (payment : Pool) : Prop where
  entries : ∀ r n, payment.get? r = some n →
    0 < n ∧ n ≤ q.balance (some r) ∧ r ∈ (q.tender c.currency).map (·.1)
  enough : c.amount ≤ payment.worth (q.tender c.currency)
  tight : ∀ r n, payment.get? r = some n →
    Pool.worth (payment.insert r (n - 1)) (q.tender c.currency) < c.amount

theorem tender_of_direct (direct : k.direct? = some r) : q.tender k = [(r, 1)] := by
  cases k <;> cases direct <;> rfl

theorem tender_of_metals (mixed : c.currency.direct? = none) :
    q.tender c.currency = q.metals c ++ [(.megacredits, 1)] := by
  obtain ⟨k, amount⟩ := c
  cases k <;> first | rfl | cases mixed

theorem tender_distinct (q : Player) (k : CostClass) : ((q.tender k).map (·.1)).Nodup := by
  cases k <;> simp [tender]

theorem tender_pos (bonus : 0 ≤ q.metalBonus) (k : CostClass) : ∀ v ∈ q.tender k, 0 < v.2 := by
  have steel : 0 < q.steelValue := by
    unfold steelValue
    omega
  have titanium : 0 < q.titaniumValue := by
    unfold titaniumValue
    omega
  cases k <;> simp [tender, steel, titanium]

/-- The metals are tried in the order of their values, which differ by one. -/
theorem metals_descend (q : Player) (c : Cost) :
    (q.metals c).Pairwise fun m m' => m.2 = m'.2 + 1 := by
  obtain ⟨k, amount⟩ := c
  cases k <;> simp [metals, Cost.acceptsTitanium, Cost.acceptsSteel, titaniumValue, steelValue]
  omega

/-! ## Spending metals -/

/-- Where the payment of an amount stands when some metals were tried: what is spent, and what remains
to be paid. -/
structure Spent (q : Player) (amount : Int) (done : List (Resource × Int)) (spent : Pool)
    (remaining : Int) : Prop where
  entries : ∀ r n, spent.get? r = some n → 0 < n ∧ n ≤ q.balance (some r) ∧ r ∈ done.map (·.1)
  nonneg : 0 ≤ remaining
  balanced : spent.worth done + remaining = amount
  /-- What is left over of a metal was too much. -/
  full : ∀ m ∈ done, spent.amount m.1 < q.balance (some m.1) → remaining < m.2
  /-- It still was when a later metal paid at least one unit. -/
  saved : done.Pairwise fun m m' => spent.amount m.1 < q.balance (some m.1) →
    0 < spent.amount m'.1 → remaining + m'.2 < m.2

theorem spent_nothing (nonneg : 0 ≤ amount) : q.Spent amount [] ∅ amount where
  entries _ _ there := nomatch there
  nonneg := nonneg
  balanced := Int.zero_add amount
  full _ hm := nomatch hm
  saved := .nil

/-- Of a metal with some balance and value this much fits into what remains: it is no more than there is,
nor too much, and one unit more would be, if there is one. -/
structure Fits (balance value remaining used : Int) : Prop where
  nonneg : 0 ≤ used
  held : used ≤ balance
  paid : used * value ≤ remaining
  much : used < balance → remaining - used * value < value

theorem fits_min {balance value remaining : Int} (held : 0 ≤ balance) (pos : 0 < value)
    (nonneg : 0 ≤ remaining) :
    Fits balance value remaining (min balance (remaining.fdiv value)) := by
  rw [Int.fdiv_eq_ediv_of_nonneg _ pos.le]
  have quotient_nonneg : 0 ≤ remaining / value := Int.ediv_nonneg nonneg pos.le
  have fits : remaining / value * value ≤ remaining := Int.ediv_mul_le _ pos.ne'
  have exceeds : remaining < (remaining / value + 1) * value := Int.lt_ediv_add_one_mul_self _ pos
  refine ⟨by omega, by omega, ?_, fun less => ?_⟩
  · exact (Int.mul_le_mul_of_nonneg_right (by omega) pos.le).trans fits
  · have all : min balance (remaining / value) = remaining / value := by omega
    rw [Int.add_mul, Int.one_mul] at exceeds
    rw [all]
    omega

namespace Spent

theorem absent (h : q.Spent amount done spent remaining) {r : Resource}
    (new : r ∉ done.map (·.1)) : spent.get? r = none := by
  cases there : spent.get? r with
  | none => rfl
  | some n => exact absurd (h.entries r n there).2.2 new

theorem amount_nonneg (h : q.Spent amount done spent remaining) (r : Resource) :
    0 ≤ spent.amount r := by
  cases there : spent.get? r with
  | none => exact (Pool.amount_of_absent there).ge
  | some n =>
    rw [Pool.amount_of_get? there]
    exact (h.entries r n there).1.le

/-- Some of the next metal is spent, as much as fits. -/
theorem add (h : q.Spent amount done spent remaining) (new : m.1 ∉ done.map (·.1)) (pos : 0 < m.2)
    (fits : Fits (q.balance (some m.1)) m.2 remaining used) :
    q.Spent amount (done ++ [m]) (spent.record m.1 used) (remaining - used * m.2) := by
  obtain ⟨used_nonneg, held, paid, much⟩ := fits
  have paid_nonneg : 0 ≤ used * m.2 := Int.mul_nonneg used_nonneg pos.le
  have absent := h.absent new
  have recorded : ∀ r, (spent.record m.1 used).amount r = if r = m.1 then used else spent.amount r :=
    Pool.amount_record absent
  have kept : ∀ m' ∈ done, (spent.record m.1 used).amount m'.1 = spent.amount m'.1 := by
    intro m' hm'
    have other : m'.1 ≠ m.1 := fun same => new (same ▸ List.mem_map.2 ⟨m', hm', rfl⟩)
    rw [recorded, if_neg other]
  refine ⟨?entries, by omega, ?balanced, ?full, ?saved⟩
  case entries =>
    intro r n there
    rcases Pool.get?_record there with ⟨rfl, rfl, some⟩ | there
    · exact ⟨by omega, held, by simp⟩
    · obtain ⟨positive, held, old⟩ := h.entries r n there
      exact ⟨positive, held, List.map_append ▸ List.mem_append_left _ old⟩
  case balanced =>
    rw [Pool.worth_append, Pool.worth_record_of_notMem new,
      Pool.worth_record (List.mem_singleton_self m) (List.nodup_singleton _) absent]
    have balanced := h.balanced
    have nothing : spent.worth [m] = 0 := by
      simp [Pool.worth, Pool.amount_of_absent absent]
    omega
  case full =>
    intro m' hm' room
    rcases List.mem_append.1 hm' with hm' | hm'
    · rw [kept m' hm'] at room
      have := h.full m' hm' room
      omega
    · obtain rfl := List.mem_singleton.1 hm'
      rw [recorded, if_pos rfl] at room
      exact much room
  case saved =>
    rw [List.pairwise_append]
    refine ⟨?_, List.pairwise_singleton _ _, ?_⟩
    · refine h.saved.imp_of_mem fun {a b} ha hb saved room some => ?_
      rw [kept a ha] at room
      rw [kept b hb] at some
      have := saved room some
      omega
    · intro a ha b hb room some
      obtain rfl := List.mem_singleton.1 hb
      rw [kept a ha] at room
      rw [recorded, if_pos rfl] at some
      have := h.full a ha room
      have unit : b.2 ≤ used * b.2 := le_mul_of_one_le_left pos.le some
      omega

/-- As much of the next metal is spent as fits. -/
theorem step (h : q.Spent amount done spent remaining)
    (distinct : ((done ++ [m]).map (·.1)).Nodup) (pos : 0 < m.2)
    (balance : 0 ≤ q.balance (some m.1)) :
    q.Spent amount (done ++ [m])
      (spent.record m.1 (min (q.balance (some m.1)) (remaining.fdiv m.2)))
      (remaining - min (q.balance (some m.1)) (remaining.fdiv m.2) * m.2) := by
  have new : m.1 ∉ done.map (·.1) := by
    rw [List.map_append, List.nodup_append] at distinct
    exact fun old => distinct.2.2 _ old _ (List.mem_singleton_self _) rfl
  exact h.add new pos (fits_min balance pos h.nonneg)

end Spent

theorem spendMetals_cons (nonzero : m.2 ≠ 0) (spent : Pool) (remaining : Int) :
    q.spendMetals (m :: ms) spent remaining =
      q.spendMetals ms (spent.record m.1 (min (q.balance (some m.1)) (remaining.fdiv m.2)))
        (remaining - min (q.balance (some m.1)) (remaining.fdiv m.2) * m.2) := by
  obtain ⟨metal, value⟩ := m
  rw [spendMetals, if_neg nonzero]
  simp only [Pool.record]
  split
  next nothing => rw [nothing, Int.zero_mul, Int.sub_zero]
  next => rfl

theorem Spent.run (h : q.Spent amount done spent remaining)
    (distinct : ((done ++ ms).map (·.1)).Nodup) (pos : ∀ m ∈ ms, 0 < m.2)
    (balances : ∀ r, 0 ≤ q.balance (some r)) :
    ∃ spent' remaining', q.spendMetals ms spent remaining = .ok (spent', remaining') ∧
      q.Spent amount (done ++ ms) spent' remaining' := by
  induction ms generalizing done spent remaining with
  | nil => exact ⟨spent, remaining, rfl, (List.append_nil done).symm ▸ h⟩
  | cons m ms ih =>
    obtain ⟨positive, later⟩ := List.forall_mem_cons.1 pos
    have split : done ++ m :: ms = done ++ [m] ++ ms := by simp
    rw [split] at distinct ⊢
    have here : ((done ++ [m]).map (·.1)).Nodup := by
      rw [List.map_append] at distinct
      exact (List.nodup_append.1 distinct).1
    rw [spendMetals_cons positive.ne']
    exact ih (h.step here positive (balances m.1)) distinct later

theorem spendMetals_spent (distinct : (ms.map (·.1)).Nodup) (pos : ∀ m ∈ ms, 0 < m.2)
    (balances : ∀ r, 0 ≤ q.balance (some r)) (nonneg : 0 ≤ amount) :
    ∃ spent remaining, q.spendMetals ms ∅ amount = .ok (spent, remaining) ∧
      q.Spent amount ms spent remaining :=
  Spent.run (spent_nothing nonneg) distinct pos balances

/-! ## Settling -/

theorem settle_eq (spent : Pool) (remaining : Int) :
    q.settle spent remaining =
      if q.balance (some .megacredits) < remaining then none
      else some (spent.record .megacredits remaining) := rfl

section Settling

variable (mixed : c.currency.direct? = none) (bonus : 0 ≤ q.metalBonus)
  (h : q.Spent c.amount (q.metals c) spent remaining)

include mixed

theorem megacredits_notMem_metals : .megacredits ∉ (q.metals c).map (·.1) := by
  have distinct := q.tender_distinct c.currency
  rw [tender_of_metals mixed, List.map_append, List.nodup_append] at distinct
  exact fun there => distinct.2.2 _ there _ (List.mem_singleton_self _) rfl

theorem mem_tender_of_metal {r : Resource} (hr : r ∈ (q.metals c).map (·.1)) :
    r ∈ (q.tender c.currency).map (·.1) := by
  rw [tender_of_metals mixed, List.map_append]
  exact List.mem_append_left _ hr

include h

theorem Spent.megacredits_absent : spent.get? .megacredits = none :=
  h.absent (megacredits_notMem_metals mixed)

theorem Spent.worth_tender : spent.worth (q.tender c.currency) = c.amount - remaining := by
  have nothing : spent.worth [(.megacredits, 1)] = 0 := by
    simp [Pool.worth, Pool.amount_of_absent (h.megacredits_absent mixed)]
  have balanced := h.balanced
  rw [tender_of_metals mixed, Pool.worth_append]
  omega

include bonus in
/-- Megacredits that cover the rest pay exactly the amount. -/
theorem Spent.pays_exactly (rest : remaining ≤ q.balance (some .megacredits)) :
    q.Pays c (spent.record .megacredits remaining) := by
  have distinct := q.tender_distinct c.currency
  have credits : (.megacredits, 1) ∈ q.tender c.currency := by
    rw [tender_of_metals mixed]
    exact List.mem_append_right _ (List.mem_singleton_self _)
  have exact : (spent.record .megacredits remaining).worth (q.tender c.currency) = c.amount := by
    rw [Pool.worth_record credits distinct (h.megacredits_absent mixed), h.worth_tender mixed]
    ring
  have entries : ∀ r n, (spent.record .megacredits remaining).get? r = some n →
      0 < n ∧ n ≤ q.balance (some r) ∧ r ∈ (q.tender c.currency).map (·.1) := by
    intro r n there
    rcases Pool.get?_record there with ⟨rfl, rfl, some⟩ | there
    · have nonneg := h.nonneg
      exact ⟨by omega, rest, List.mem_map.2 ⟨_, credits, rfl⟩⟩
    · obtain ⟨positive, held, metal⟩ := h.entries r n there
      exact ⟨positive, held, mem_tender_of_metal mixed metal⟩
  refine ⟨entries, exact.ge, ?_⟩
  intro r n there
  obtain ⟨⟨_, v⟩, hv, rfl⟩ := List.mem_map.1 (entries r n there).2.2
  have positive := tender_pos bonus _ _ hv
  rw [Pool.worth_lower hv distinct there, exact]
  exact Int.sub_lt_self _ positive

omit mixed in
/-- As long as something remains, a unit of one metal in place of one of another closes no gap: the other
is worth more, or it was not needed. -/
theorem Spent.apart (rest : 0 < remaining) {m' : Resource × Int} (hm : m ∈ q.metals c)
    (hm' : m' ∈ q.metals c) (room : spent.amount m.1 < q.balance (some m.1))
    (used : 0 < spent.amount m'.1) (other : m ≠ m') : m.2 < m'.2 + remaining := by
  have pairs := (q.metals_descend c).and h.saved
  refine List.Pairwise.forall_of_forall_of_flip
    (R := fun a b => spent.amount a.1 < q.balance (some a.1) → 0 < spent.amount b.1 → a ≠ b →
      a.2 < b.2 + remaining) ?_ ?_ ?_ hm hm' room used other
  · exact fun a _ _ _ other => absurd rfl other
  · refine pairs.imp fun ⟨next, saved⟩ room used _ => ?_
    have := saved room used
    omega
  · refine pairs.imp fun ⟨next, _⟩ _ _ _ => ?_
    omega

/-- Where megacredits fall short, one more unit of a metal that is left over pays too much, and taking
back a unit of any metal pays too little. -/
theorem Spent.pays_over (short : q.balance (some .megacredits) < remaining)
    (balance : 0 ≤ q.balance (some .megacredits)) (hm : m ∈ q.metals c)
    (room : spent.amount m.1 < q.balance (some m.1)) :
    q.Pays c (spent.insert m.1 (spent.amount m.1 + 1)) := by
  have distinct := q.tender_distinct c.currency
  have metal : ∀ m' ∈ q.metals c, m' ∈ q.tender c.currency := by
    intro m' hm'
    rw [tender_of_metals mixed]
    exact List.mem_append_left _ hm'
  have excess : Pool.worth (spent.insert m.1 (spent.amount m.1 + 1)) (q.tender c.currency) =
      c.amount - remaining + m.2 := by
    rw [Pool.worth_insert (metal m hm) distinct, h.worth_tender mixed]
    ring
  have fits := h.full m hm room
  refine ⟨?_, by omega, ?_⟩
  · refine Table.forall_insert (fun r n there => ?_) ?_
    · obtain ⟨positive, held, old⟩ := h.entries r n there
      exact ⟨positive, held, mem_tender_of_metal mixed old⟩
    · have nonneg := h.amount_nonneg m.1
      exact ⟨by omega, room, mem_tender_of_metal mixed (List.mem_map.2 ⟨m, hm, rfl⟩)⟩
  · intro r n there
    by_cases same : r = m.1
    · subst same
      rw [Pool.worth_lower (metal m hm) distinct there, excess]
      omega
    · have old : spent.get? r = some n := by
        rwa [Table.get?_insert, if_neg same] at there
      obtain ⟨positive, -, hr⟩ := h.entries r n old
      obtain ⟨m', hm', rfl⟩ := List.mem_map.1 hr
      rw [Pool.worth_lower (metal m' hm') distinct there, excess]
      have other : m ≠ m' := fun eq => same (eq ▸ rfl)
      have used : 0 < spent.amount m'.1 := Pool.amount_of_get? old ▸ positive
      have := h.apart (by omega) hm hm' room used other
      omega

end Settling

/-! ## Every cost has its answer -/

/-- Nothing that the player has and the class accepts comes to the amount. -/
def FallsShort (q : Player) (c : Cost) : Prop :=
  ∀ offer, q.Offers c.currency offer → offer.worth (q.tender c.currency) < c.amount

theorem Spent.fallsShort (mixed : c.currency.direct? = none) (bonus : 0 ≤ q.metalBonus)
    (h : q.Spent c.amount (q.metals c) spent remaining)
    (short : q.balance (some .megacredits) < remaining)
    (gone : ∀ m ∈ q.metals c, q.balance (some m.1) ≤ spent.amount m.1) : q.FallsShort c := by
  intro offer offers
  have pos := tender_pos bonus c.currency
  rw [tender_of_metals mixed] at pos ⊢
  have metals : offer.worth (q.metals c) ≤ spent.worth (q.metals c) := by
    refine Pool.worth_le (fun v hv => pos v (List.mem_append_left _ hv)) fun m hm => ?_
    exact (offers.held m.1).trans (gone m hm)
  have credits : offer.worth [(.megacredits, 1)] ≤ q.balance (some .megacredits) := by
    have held := offers.held .megacredits
    simp only [Pool.worth, List.map_cons, List.map_nil, total_cons, total_nil]
    omega
  have balanced := h.balanced
  rw [Pool.worth_append]
  omega

theorem paymentFor_direct {r : Resource} (direct : c.currency.direct? = some r) :
    q.paymentFor c = .ok (if q.balance (some r) < c.amount then none
      else some (Pool.record ∅ r c.amount)) := by
  unfold paymentFor Pool.record
  rw [direct]
  simp only [Int.natCast_eq_zero]
  split
  · rfl
  · split <;> rfl

theorem pays_directly {r : Resource} (direct : c.currency.direct? = some r)
    (enough : c.amount ≤ q.balance (some r)) : q.Pays c (Pool.record ∅ r c.amount) := by
  have exact : (Pool.record ∅ r c.amount).worth [(r, 1)] = c.amount := by
    rw [Pool.worth_record (List.mem_singleton_self _) (List.nodup_singleton _) rfl]
    rw [show Pool.worth ∅ [(r, 1)] = 0 from rfl, Int.zero_add, Int.mul_one]
  have entry : ∀ r' n, (Pool.record ∅ r c.amount).get? r' = some n →
      r' = r ∧ n = c.amount ∧ (c.amount : Int) ≠ 0 := by
    intro r' n there
    exact (Pool.get?_record there).resolve_right fun there => nomatch there
  refine ⟨?_, ?_, ?_⟩
  · intro r' n there
    obtain ⟨rfl, rfl, some⟩ := entry r' n there
    rw [tender_of_direct direct]
    exact ⟨by omega, enough, List.mem_singleton_self _⟩
  · rw [tender_of_direct direct, exact]
  · intro r' n there
    obtain ⟨rfl, -, -⟩ := entry r' n there
    rw [tender_of_direct direct,
      Pool.worth_lower (List.mem_singleton_self _) (List.nodup_singleton _) there, exact]
    exact Int.sub_one_lt_of_le le_rfl

/-- There is an answer to every cost: a payment without waste, or the news that there is none. -/
theorem paymentFor_settles (balances : ∀ r, 0 ≤ q.balance (some r)) (bonus : 0 ≤ q.metalBonus)
    (c : Cost) :
    (∃ payment, q.paymentFor c = .ok (some payment) ∧ q.Pays c payment) ∨
      (q.paymentFor c = .ok none ∧ q.FallsShort c) := by
  cases direct : c.currency.direct? with
  | some r =>
    rw [paymentFor_direct direct]
    split
    next short =>
      refine .inr ⟨rfl, fun offer offers => ?_⟩
      have held := offers.held r
      rw [tender_of_direct direct]
      simp only [Pool.worth, List.map_cons, List.map_nil, total_cons, total_nil]
      omega
    next enough => exact .inl ⟨_, rfl, pays_directly direct (Int.not_lt.1 enough)⟩
  | none =>
    have distinct := q.tender_distinct c.currency
    have pos := tender_pos bonus c.currency
    rw [tender_of_metals direct] at distinct pos
    rw [List.map_append, List.nodup_append] at distinct
    obtain ⟨spent, remaining, hs, h⟩ := spendMetals_spent distinct.1
      (fun m hm => pos m (List.mem_append_left _ hm)) balances (Int.natCast_nonneg c.amount)
    unfold paymentFor
    simp only [direct, hs, ok_bind, settle_eq]
    split
    next rest =>
      rw [if_neg (Int.not_lt.2 rest)]
      exact .inl ⟨_, rfl, h.pays_exactly direct bonus rest⟩
    next short =>
      have short := Int.not_le.1 short
      cases hf : (q.metals c).find? fun m => spent.amount m.1 < q.balance (some m.1) with
      | none =>
        refine .inr ⟨rfl, h.fallsShort direct bonus short fun m hm => ?_⟩
        simpa using List.find?_eq_none.1 hf m hm
      | some m =>
        have hm := List.mem_of_find?_eq_some hf
        have room : spent.amount m.1 < q.balance (some m.1) := by simpa using List.find?_some hf
        -- what remains is less than the unit that closes the gap
        have closed : max 0 (remaining - m.2) = 0 := by
          have fits := h.full m hm room
          omega
        have balance := balances .megacredits
        simp only [closed, if_neg (Int.not_lt.2 balance)]
        exact .inl ⟨_, rfl, h.pays_over direct short balance hm room⟩

theorem Pays.offers (pays : q.Pays c payment) (balances : ∀ r, 0 ≤ q.balance (some r)) :
    q.Offers c.currency payment := by
  have read : ∀ r, payment.amount r = 0 ∨ payment.get? r = some (payment.amount r) := by
    intro r
    cases there : payment.get? r with
    | none => exact .inl (Pool.amount_of_absent there)
    | some n => exact .inr (Pool.amount_of_get? there ▸ rfl)
  refine ⟨fun r some => ?_, fun r => ?_, fun r => ?_⟩
  · exact (pays.entries r _ ((read r).resolve_left some)).2.2
  · rcases read r with nothing | there
    · exact nothing.ge
    · exact (pays.entries r _ there).1.le
  · rcases read r with nothing | there
    · exact nothing ▸ balances r
    · exact (pays.entries r _ there).2.1

theorem canAfford_eq_true :
    q.canAfford c = .ok true ↔ ∃ payment, q.paymentFor c = .ok (some payment) := by
  simp only [canAfford, bind_eq_ok, pure_eq_ok, Except.ok.injEq, Option.isSome_iff_exists]
  constructor
  · rintro ⟨_, found, payment, rfl⟩
    exact ⟨payment, found⟩
  · rintro ⟨payment, found⟩
    exact ⟨_, found, payment, rfl⟩

theorem canAfford_mono (balances : ∀ r, 0 ≤ q.balance (some r)) (bonus : 0 ≤ q.metalBonus)
    {pool : Pool} (more : ∀ r, q.balance (some r) ≤ pool.amount r)
    (afford : q.canAfford c = .ok true) :
    ({ q with resources := pool }).canAfford c = .ok true := by
  obtain ⟨payment, found⟩ := canAfford_eq_true.1 afford
  have pays : q.Pays c payment := by
    rcases paymentFor_settles balances bonus c with ⟨_, found', pays⟩ | ⟨missing, -⟩
    · rw [found] at found'
      cases found'
      exact pays
    · rw [found] at missing
      cases missing
  have offers := pays.offers balances
  -- the same payment is on offer, and counts as much as before
  have still : ({ q with resources := pool }).Offers c.currency payment :=
    ⟨offers.accepted, offers.nonneg, fun r => (offers.held r).trans (more r)⟩
  rcases paymentFor_settles (q := { q with resources := pool })
    (fun r => (balances r).trans (more r)) bonus c with ⟨payment', found', -⟩ | ⟨-, short⟩
  · exact canAfford_eq_true.2 ⟨payment', found'⟩
  · exact absurd pays.enough (Int.not_le.2 (short payment still))

/-- A payment is found exactly where there is one, nothing in it is wasted, and no cost is out of reach
because there is more to pay with. -/
theorem payments_without_waste (balances : ∀ r, 0 ≤ q.balance (some r))
    (bonus : 0 ≤ q.metalBonus) (c : Cost) :
    ((∃ payment, q.paymentFor c = .ok (some payment) ∧ q.Pays c payment) ∨
      (q.paymentFor c = .ok none ∧ q.FallsShort c)) ∧
    ∀ pool : Pool, (∀ r, q.balance (some r) ≤ pool.amount r) → q.canAfford c = .ok true →
      ({ q with resources := pool }).canAfford c = .ok true :=
  ⟨paymentFor_settles balances bonus c, fun _ => canAfford_mono balances bonus⟩

/-- A player with metals and no megacredits. -/
def smelter : Player := { id := 1, resources := Table.ofList [(.steel, 1), (.titanium, 2)] }

/-- `smelter` pays five with two units of titanium, and one would not do. -/
theorem payments_without_waste_smelter :
    (∀ r, 0 ≤ smelter.balance (some r)) ∧ 0 ≤ smelter.metalBonus ∧
      smelter.Pays (.space 5) (Table.ofList [(.titanium, 2)]) := by
  have balances : ∀ r, 0 ≤ smelter.balance (some r) := by
    intro r
    cases r <;> decide
  have bonus : 0 ≤ smelter.metalBonus := by decide
  have found : smelter.paymentFor (.space 5) = .ok (some (Table.ofList [(.titanium, 2)])) := rfl
  refine ⟨balances, bonus, ?_⟩
  rcases (payments_without_waste balances bonus (.space 5)).1 with
    ⟨payment, found', pays⟩ | ⟨missing, -⟩
  · rw [found] at found'
    cases found'
    exact pays
  · rw [found] at missing
    cases missing

end Player

end Terraforming
