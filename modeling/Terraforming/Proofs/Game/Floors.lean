import Terraforming.Proofs.Game.Books

/-!
# Production floors

A production may not fall below its floor: minus the terraform rating for megacredits, nothing for
the rest.  The floor of megacredits moves with the rating, and a rating is lowered without a look at
it (`Operation.undermines`).  That is the only way to get below a floor.

* `Player.canProduce` — who is at the floors or above, and owes nothing, can produce;
* `Game.floored_execute_iff` — an accepted operation keeps everybody at the floors or above exactly
  when it undermines nobody;
* `Game.production_guarded` — so after any accepted operations that undermine nobody, everybody can
  produce.
-/

namespace Terraforming

/-! ## Players -/

namespace Player

variable {q : Player}

/-- No production is below its floor. -/
def Floored (q : Player) : Prop := ∀ r, q.productionFloor (some r) ≤ q.productionOf (some r)

/-- No balance is negative. -/
def Covered (q : Player) : Prop := ∀ r, 0 ≤ q.balance (some r)

theorem floored_iff : q.Floored ↔ 0 ≤ q.rating + q.productionOf (some .megacredits) ∧
    ∀ r, r ≠ .megacredits → 0 ≤ q.productionOf (some r) := by
  constructor
  · intro floored
    have money := floored .megacredits
    rw [productionFloor, if_pos rfl] at money
    refine ⟨by omega, fun r other => ?_⟩
    have level := floored r
    rwa [productionFloor, if_neg fun same => other (Option.some.inj same)] at level
  · rintro ⟨money, rest⟩ r
    rw [productionFloor]
    split
    next same =>
      rw [same]
      omega
    next other => exact rest r fun same => other (congrArg some same)

/-- Who is at the floors or above, and owes nothing, owes nothing after production. -/
theorem canProduce (covered : q.Covered) (floored : q.Floored) : q.CanProduce := by
  obtain ⟨money, rest⟩ := floored_iff.1 floored
  intro r
  cases r with
  | megacredits =>
    have held := covered .megacredits
    simp only [balanceAfterProduction]
    omega
  | energy =>
    have level := rest .energy (by decide)
    simp only [balanceAfterProduction]
    omega
  | heat =>
    have heat := covered .heat
    have energy := covered .energy
    have level := rest .heat (by decide)
    simp only [balanceAfterProduction]
    omega
  | steel | titanium | plants => exact Int.add_nonneg (covered _) (rest _ (by decide))

end Player

/-! ## Entries -/

namespace Entry

variable {c : Command} {p : PlayerId} {q q' : Player}

/-- An entry keeps a player at the floors or above, if a rating does not fall too low. -/
theorem floored (entry : Entry c p q q'.books) (floored : q.Floored)
    (upheld : ∀ n, c = .raiseTerraformRating p n →
      0 ≤ q.rating + n + q.productionOf (some .megacredits)) : q'.Floored := by
  generalize hb : q'.books = b at entry
  cases entry with
  | none | balance r n enough | produced can =>
    simp only [Player.books, Player.produced, Books.mk.injEq] at hb
    obtain ⟨-, production, rating⟩ := hb
    intro r
    rw [Player.productionFloor, Player.productionOf, production, rating]
    exact floored r
  | production r n enough =>
    simp only [Player.books, Books.mk.injEq] at hb
    obtain ⟨-, production, rating⟩ := hb
    intro r'
    rw [Player.productionFloor, rating]
    show q.productionFloor (some r') ≤ q'.production.amount r'
    rw [production, Pool.amount_insert]
    split
    next same => exact same ▸ enough
    next => exact floored r'
  | rating n raised =>
    -- the one entry that moves a floor, and only that of megacredits
    simp only [Player.books, Books.mk.injEq] at hb
    obtain ⟨-, production, rating⟩ := hb
    have level : ∀ r, q'.productionOf r = q.productionOf r := by
      intro r
      rw [Player.productionOf, production, Player.productionOf]
    rw [Player.floored_iff, level, rating]
    refine ⟨upheld n raised, fun r other => ?_⟩
    rw [level]
    exact (Player.floored_iff.1 floored).2 r other

theorem covered (entry : Entry c p q q'.books) (covered : q.Covered) : q'.Covered := by
  generalize hb : q'.books = b at entry
  cases entry with
  | none | production r n enough | rating n raised =>
    simp only [Player.books, Books.mk.injEq] at hb
    intro r
    rw [Player.balance, hb.1]
    exact covered r
  | balance r n enough =>
    simp only [Player.books, Books.mk.injEq] at hb
    intro r'
    show 0 ≤ q'.resources.amount r'
    rw [hb.1, Pool.amount_insert]
    split
    next => exact enough
    next => exact covered r'
  | produced can =>
    simp only [Player.books, Player.produced, Books.mk.injEq] at hb
    intro r
    show 0 ≤ q'.resources.amount r
    rw [hb.1, Pool.amount_ofList]
    exact can r

end Entry

/-! ## Operations -/

/-- An operation lowers a rating so far that the production of megacredits is below its floor. -/
def Operation.undermines (o : Operation) (g : Game) : Bool :=
  o.type = .raiseTerraformRating && (o.player.bind g.player?).any fun q =>
    decide (q.rating + o.count + q.productionOf (some .megacredits) < 0)

theorem Operation.command?_eq_raiseTerraformRating {o : Operation} {p : PlayerId} {n : Int} :
    o.command? = .ok (.raiseTerraformRating p n) ↔
      o.type = .raiseTerraformRating ∧ o.player = some p ∧ o.count = n := by
  constructor
  · intro h
    have type : o.type = .raiseTerraformRating := List.mem_singleton.1 (type_of_command? h)
    have complete := command?_eq_ok.1 h
    simp only [complete?, type, Option.bind_eq_bind, Option.bind_eq_some_iff] at complete
    obtain ⟨p, hp, ⟨⟩⟩ := complete
    exact ⟨type, hp, rfl⟩
  · rintro ⟨type, player, rfl⟩
    rw [command?_eq_ok, complete?, type, player]
    rfl

theorem Operation.undermines_iff {o : Operation} {g : Game} :
    o.undermines g = true ↔ ∃ p q, o.command? = .ok (.raiseTerraformRating p o.count) ∧
      g.player? p = some q ∧ q.rating + o.count + q.productionOf (some .megacredits) < 0 := by
  simp only [undermines, Bool.and_eq_true, decide_eq_true_iff, Option.any_eq_true,
    Option.bind_eq_some_iff, command?_eq_raiseTerraformRating, and_true]
  constructor
  · rintro ⟨type, q, ⟨p, player, hq⟩, low⟩
    exact ⟨p, q, ⟨type, player⟩, hq, low⟩
  · rintro ⟨p, q, ⟨type, player⟩, hq, low⟩
    exact ⟨type, q, ⟨p, player, hq⟩, low⟩

namespace Game

variable {g g' : Game} {o : Operation} {os : List Operation}

/-- No production of anybody is below its floor. -/
def Floored (g : Game) : Prop := ∀ p q, g.player? p = some q → q.Floored

/-- No balance of anybody is negative. -/
def Covered (g : Game) : Prop := ∀ p q, g.player? p = some q → q.Covered

/-- **One operation.**  One that is accepted leaves everybody at the floors or above exactly when it
undermines nobody. -/
theorem floored_execute_iff (floored : g.Floored) (h : g.execute o = .accepted g') :
    g'.Floored ↔ o.undermines g = false := by
  rw [← Bool.not_eq_true, Operation.undermines_iff]
  constructor
  · rintro floored' ⟨p, q, read, hq, low⟩
    obtain ⟨c, g₁, read', carried, rfl⟩ := execute_eq_accepted.1 h
    obtain rfl : c = .raiseTerraformRating p o.count := Except.ok.inj (read'.symm.trans read)
    obtain ⟨q', hq', rfl⟩ := update_eq_ok.1 carried
    obtain rfl : q' = q := Option.some.inj (hq'.symm.trans hq)
    have lowered := floored' p _ (player?_withPlayer.trans (if_pos rfl))
    have money := (Player.floored_iff.1 lowered).1
    exact absurd money (Int.not_le.2 low)
  · intro upheld p q' hq'
    obtain ⟨c, read, entered⟩ := execute_entered h
    obtain ⟨q, hq, entry⟩ := entered.players p q' hq'
    refine entry.floored (floored p q hq) ?_
    rintro n rfl
    obtain ⟨-, -, rfl⟩ := Operation.command?_eq_raiseTerraformRating.1 read
    exact Int.not_lt.1 fun low => upheld ⟨p, q, read, hq, low⟩

theorem covered_execute (covered : g.Covered) (h : g.execute o = .accepted g') : g'.Covered := by
  intro p q' hq'
  obtain ⟨c, -, entered⟩ := execute_entered h
  obtain ⟨q, hq, entry⟩ := entered.players p q' hq'
  exact entry.covered (covered p q hq)

/-! ## Runs of operations -/

/-- One of the operations undermines somebody when its turn comes. -/
def undermined (g : Game) : List Operation → Bool
  | [] => false
  | o :: os => o.undermines g || match g.execute o with
    | .accepted g' => g'.undermined os
    | .refused _ _ => false

theorem covered_executeAll (covered : g.Covered) (h : g.executeAll os = .accepted g') :
    g'.Covered :=
  executeAll_keeps h (fun _ _ _ _ covered ho => covered_execute covered ho) covered

theorem floored_executeAll (floored : g.Floored) (h : g.executeAll os = .accepted g')
    (upheld : g.undermined os = false) : g'.Floored := by
  induction os generalizing g with
  | nil =>
    cases h
    exact floored
  | cons o os ih =>
    obtain ⟨g₁, first, rest⟩ := executeAll_cons_eq_accepted.1 h
    simp only [undermined, first, Bool.or_eq_false_iff] at upheld
    exact ih ((floored_execute_iff floored first).2 upheld.1) rest upheld.2

/-- **The production floors are guarded**, but for lowered ratings.  From a game whose productions
are at the floors or above, an accepted operation leads to such a game exactly when it undermines
nobody; and if nobody owes anything, then after any accepted operations of which none undermines
anybody, whoever is there can produce. -/
theorem production_guarded (floored : g.Floored) :
    (∀ o g', g.execute o = .accepted g' → (g'.Floored ↔ o.undermines g = false)) ∧
      ∀ os g', g.Covered → g.executeAll os = .accepted g' → g.undermined os = false →
        g'.Floored ∧ ∀ p q, g'.player? p = some q →
          ∃ g'', g'.execute (.produce p) = .accepted g'' := by
  refine ⟨fun o g' h => floored_execute_iff floored h, fun os g' covered h upheld => ?_⟩
  have floored' := floored_executeAll floored h upheld
  have covered' := covered_executeAll covered h
  refine ⟨floored', fun p q hq => ?_⟩
  obtain ⟨g'', produced, -⟩ :=
    execute_produce_of_can hq (Player.canProduce (covered' p q hq) (floored' p q hq))
  exact ⟨g'', produced⟩

/-- A game of one player who has nothing. -/
def newcomer : Game where
  board := .standard
  players := Table.ofList [(1, { id := 1 })]

theorem floored_newcomer : newcomer.Floored := by
  intro p q hq
  obtain ⟨-, rfl⟩ := Table.get?_ofList_singleton.1 hq
  intro r
  cases r <;> decide

theorem covered_newcomer : newcomer.Covered := by
  intro p q hq
  obtain ⟨-, rfl⟩ := Table.get?_ofList_singleton.1 hq
  intro r
  cases r <;> decide

/-- In `newcomer` production and rating fall as far as they may, and the player can produce. -/
theorem production_guarded_newcomer :
    newcomer.Floored ∧ ∃ g', newcomer.executeAll [.changeProduction 1 (some .megacredits) (-15),
      .raiseTerraformRating 1 (-5)] = .accepted g' ∧ g'.Floored ∧
        ∃ g'', g'.execute (.produce 1) = .accepted g'' := by
  have runs : ((newcomer.executeAll [.changeProduction 1 (some .megacredits) (-15),
      .raiseTerraformRating 1 (-5)]).toExcept.toOption.bind fun g' =>
        (g'.player? 1).map fun q => (g', q)).isSome = true := by
    decide +kernel
  obtain ⟨_, h⟩ := Option.isSome_iff_exists.1 runs
  obtain ⟨g', hg', h⟩ := Option.bind_eq_some_iff.1 h
  obtain ⟨q, hq, -⟩ := Option.map_eq_some_iff.1 h
  have accepted := toExcept_eq_ok.1 (toOption_eq_some.1 hg')
  obtain ⟨floored, produces⟩ := (production_guarded floored_newcomer).2 _ g' covered_newcomer
    accepted (by decide +kernel)
  exact ⟨floored_newcomer, g', accepted, floored, produces 1 q hq⟩

/-- A rating is lowered below nothing, and the player cannot produce any more. -/
theorem production_undermined :
    newcomer.Floored ∧ newcomer.Covered ∧
      ∃ g', newcomer.execute (.raiseTerraformRating 1 (-21)) = .accepted g' ∧ ¬g'.Floored ∧
        (g'.execute (.produce 1)).toExcept.toOption = none := by
  refine ⟨floored_newcomer, covered_newcomer, ?_⟩
  have runs : ((newcomer.execute (.raiseTerraformRating 1 (-21))).toExcept.toOption.filter fun g' =>
      (g'.execute (.produce 1)).toExcept.toOption.isNone).isSome = true := by
    decide +kernel
  obtain ⟨g', h⟩ := Option.isSome_iff_exists.1 runs
  obtain ⟨hg', stuck⟩ := Option.filter_eq_some_iff.1 h
  have accepted := toExcept_eq_ok.1 (toOption_eq_some.1 hg')
  refine ⟨g', accepted, fun floored => ?_, Option.isNone_iff_eq_none.1 stuck⟩
  have upheld := (floored_execute_iff floored_newcomer accepted).1 floored
  exact absurd upheld (by decide +kernel)

end Game

end Terraforming
