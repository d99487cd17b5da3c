import Terraforming.Proofs.Game.Log
import Terraforming.Proofs.Game.Refusal
import Terraforming.Proofs.Game.Violations

/-!
# Economies that do not interfere

Ten types of operations are about the economy of the one player whom they name
(`OperationType.isEconomic`).  Whether such an operation is accepted, and what it makes of that player,
depends on nothing in the game but the player; and it changes nothing else (`Operation.Makes`).

* `Game.execute_economic` — an economic operation that is accepted is accepted wherever its player is
  the same;
* `Game.takes_of_executeAll`, `Game.executeAll_of_takes` — economic operations of many players are
  accepted exactly when the operations of each player are, taken by themselves;
* `Game.executeAll_of_shares` — so only the order among the operations of each player matters;
* `Game.economies_independent` — the operations of two players in any interleaving, and production in
  any order of the players.
-/

namespace Terraforming

/-- The types of operations that are about the economy of one player. -/
def OperationType.isEconomic : OperationType → Bool
  | changeResources | changeProduction | changeCardResource | putCardIntoPlay | raiseTerraformRating
  | addEffect | consumeNextCardEffects | markCardActionUsed | purchaseCards | produce => true
  | _ => false

/-- The player whose economy a command is about, if it is about one. -/
def Command.economy? : Command → Option PlayerId
  | changeResources p .. | changeProduction p .. | changeCardResource p .. | putCardIntoPlay p ..
  | raiseTerraformRating p .. | addEffect p .. | addNextCardEffect p .. | consumeNextCardEffects p
  | markCardActionUsed p .. | purchaseCards p .. | produce p => some p
  | _ => none

theorem Player.Becomes.economy? {c : Command} {p : PlayerId} {q q' : Player}
    (becomes : q.Becomes p c q') : c.economy? = some p := by
  cases becomes <;> rfl

/-- Wherever `p` is `q` in a game the command is carried out, makes `q'` of them and does nothing
else. -/
def Command.Makes (c : Command) (p : PlayerId) (q q' : Player) : Prop :=
  ∀ g : Game, g.player? p = some q → g.run c = .ok (g.withPlayer p q')

namespace Operation

/-- The operation is about the economy of `p`. -/
structure IsEconomyOf (p : PlayerId) (o : Operation) : Prop where
  type : o.type.isEconomic = true
  player : o.player = some p

/-- Wherever `p` is `q` in a game the operation is accepted, makes `q'` of them and does nothing else
but enter the log. -/
def Makes (o : Operation) (p : PlayerId) (q q' : Player) : Prop :=
  ∀ g : Game, g.player? p = some q →
    g.execute o = .accepted { g.withPlayer p q' with log := g.log ++ [o] }

/-- The command of an operation on the economy of `p` is about the economy of `p`. -/
theorem IsEconomyOf.economy? {o : Operation} {c : Command} {p : PlayerId} (h : o.IsEconomyOf p)
    (read : o.command? = .ok c) : c.economy? = some p := by
  obtain ⟨economic, named⟩ := h
  have type := type_of_command? read
  cases c with
  | placeTile l t =>
    simp only [Command.types, List.mem_cons, List.not_mem_nil, or_false] at type
    rcases type with ht | ht | ht | ht
    all_goals
      rw [ht] at economic
      cases economic
  | drawCards | discardCards | raiseTemperature | raiseOxygen | resetCardActions | advanceGeneration
  | claimMilestone | fundAward =>
    rw [List.mem_singleton.1 type] at economic
    cases economic
  | _ => exact (player_of_command? read rfl).symm.trans named

end Operation

namespace Game

variable {g g' g₁ : Game} {c : Command} {o : Operation} {p : PlayerId} {q q' : Player}
  {os os' : List Operation}

/-! ## One operation -/

/-- A command on the economy of a player that is carried out in one game is carried out in every game
where the player is the same. -/
theorem run_economic (about : c.economy? = some p) (h : g.run c = .ok g') :
    ∃ q q', g.player? p = some q ∧ c.Makes p q q' ∧ g.withPlayer p q' = g' := by
  cases run_iff.1 h with
  | @alone c p₁ q q' hq becomes =>
    obtain rfl : p₁ = p := Option.some.inj (becomes.economy?.symm.trans about)
    exact ⟨q, q', hq, fun g hq => run_of_becomes hq becomes, rfl⟩
  | _ => cases about

/-- **An operation on the economy of a player** that is accepted in one game is accepted in every game
where the player is the same, and makes the same of them. -/
theorem execute_economic (about : o.IsEconomyOf p) (h : g.execute o = .accepted g') :
    ∃ q q', g.player? p = some q ∧ o.Makes p q q' ∧
      { g.withPlayer p q' with log := g.log ++ [o] } = g' := by
  obtain ⟨c, g₁, read, carried, rfl⟩ := execute_eq_accepted.1 h
  obtain ⟨q, q', hq, makes, rfl⟩ := run_economic (about.economy? read) carried
  refine ⟨q, q', hq, ?_, rfl⟩
  intro g₂ hq₂
  exact execute_eq_accepted.2 ⟨c, _, read, makes g₂ hq₂, rfl⟩

/-! ## Each player by themselves -/

/-- The operations, one after the other, make `r'` of player `p`, who is `r` before; whoever is not in
the game can have none. -/
inductive Takes (p : PlayerId) : List Operation → (r r' : Option Player) → Prop where
  | nil (r : Option Player) : Takes p [] r r
  | cons {o : Operation} {os : List Operation} {q q' : Player} {r' : Option Player} :
      o.Makes p q q' → Takes p os (some q') r' → Takes p (o :: os) (some q) r'

/-- The operations of one player, in their order. -/
def share (p : PlayerId) (os : List Operation) : List Operation :=
  os.filter fun o => o.player = some p

theorem share_cons_self (named : o.player = some p) : share p (o :: os) = o :: share p os :=
  List.filter_cons_of_pos (by simpa using named)

theorem share_cons_of_ne {p₁ : PlayerId} (named : o.player = some p) (other : p₁ ≠ p) :
    share p₁ (o :: os) = share p₁ os := by
  have not : ¬o.player = some p₁ := fun same => other (Option.some.inj (same.symm.trans named))
  exact List.filter_cons_of_neg (by simpa using not)

/-- All of the operations are about economies, each about that of the player it names. -/
def Economic (os : List Operation) : Prop := ∀ o ∈ os, ∃ p, o.IsEconomyOf p

/-- Economic operations that are accepted take every player through their own share, and nothing but
the players changes. -/
theorem takes_of_executeAll (economic : Economic os) (h : g.executeAll os = .accepted g') :
    (∀ p, Takes p (share p os) (g.player? p) (g'.player? p)) ∧
      g' = { g with players := g'.players, log := g.log ++ os } := by
  induction os generalizing g with
  | nil =>
    cases h
    refine ⟨fun p => .nil _, ?_⟩
    rw [List.append_nil]
  | cons o os ih =>
    obtain ⟨g₁, first, rest⟩ := executeAll_cons_eq_accepted.1 h
    obtain ⟨p, about⟩ := economic o List.mem_cons_self
    obtain ⟨q, q', hq, makes, rfl⟩ := execute_economic about first
    obtain ⟨takes, frame⟩ := ih (fun o' ho' => economic o' (List.mem_cons_of_mem _ ho')) rest
    constructor
    · intro p₁
      have step := takes p₁
      by_cases same : p₁ = p
      · subst same
        rw [share_cons_self about.player, hq]
        refine .cons makes ?_
        have now : (g.withPlayer p₁ q').player? p₁ = some q' := player?_withPlayer.trans (if_pos rfl)
        rw [← now]
        exact step
      · rw [share_cons_of_ne about.player same]
        have now : (g.withPlayer p q').player? p₁ = g.player? p₁ :=
          player?_withPlayer.trans (if_neg same)
        rw [← now]
        exact step
    · rw [frame]
      simp only [withPlayer, List.append_assoc, List.singleton_append]

/-- Where every player can go through their own share, economic operations are accepted. -/
theorem executeAll_of_takes {after : PlayerId → Option Player} (economic : Economic os)
    (takes : ∀ p, Takes p (share p os) (g.player? p) (after p)) :
    ∃ g', g.executeAll os = .accepted g' ∧ ∀ p, g'.player? p = after p := by
  induction os generalizing g with
  | nil =>
    refine ⟨g, rfl, fun p => ?_⟩
    have none : Takes p [] (g.player? p) (after p) := takes p
    generalize g.player? p = r at none ⊢
    cases none
    rfl
  | cons o os ih =>
    obtain ⟨p, about⟩ := economic o List.mem_cons_self
    have own := takes p
    rw [share_cons_self about.player] at own
    generalize hr : g.player? p = r at own
    cases own with
    | @cons _ _ q q' _ makes rest =>
      have first := makes g hr
      obtain ⟨g', accepted, ends⟩ := ih (g := { g.withPlayer p q' with log := g.log ++ [o] })
        (fun o' ho' => economic o' (List.mem_cons_of_mem _ ho')) (by
          intro p₁
          show Takes p₁ (share p₁ os) ((g.withPlayer p q').player? p₁) (after p₁)
          rw [player?_withPlayer]
          by_cases same : p₁ = p
          · rw [if_pos same, same]
            exact rest
          · rw [if_neg same, ← share_cons_of_ne about.player same]
            exact takes p₁)
      exact ⟨g', executeAll_cons_eq_accepted.2 ⟨_, first, accepted⟩, ends⟩

/-- **Only the order within each share matters**: economic operations that are accepted are accepted in
every order that keeps the share of each player as it is, and lead to the same game but for the
log. -/
theorem executeAll_of_shares (economic : Economic os) (economic' : Economic os')
    (same : ∀ p, share p os' = share p os) (h : g.executeAll os = .accepted g₁) :
    g.executeAll os' = .accepted { g₁ with log := g.log ++ os' } := by
  obtain ⟨takes, frame⟩ := takes_of_executeAll economic h
  obtain ⟨g', accepted, ends⟩ := executeAll_of_takes (g := g) economic' (by
    intro p
    rw [same p]
    exact takes p)
  obtain ⟨-, frame'⟩ := takes_of_executeAll economic' accepted
  have players : g'.players = g₁.players := Table.ext_get? ends
  rw [accepted, frame', players, frame]

end Game

/-! ## Interleavings -/

/-- The third list consists of the first two, each in its order. -/
inductive Interleaves {α : Type} : (xs ys zs : List α) → Prop where
  | nil : Interleaves [] [] []
  | left {xs ys zs : List α} (x : α) : Interleaves xs ys zs → Interleaves (x :: xs) ys (x :: zs)
  | right {xs ys zs : List α} (y : α) : Interleaves xs ys zs → Interleaves xs (y :: ys) (y :: zs)

namespace Interleaves

variable {α : Type} {xs ys zs : List α}

theorem mem {a : α} (h : Interleaves xs ys zs) (ha : a ∈ zs) : a ∈ xs ∨ a ∈ ys := by
  induction h with
  | nil => exact absurd ha List.not_mem_nil
  | left x _ ih =>
    rcases List.mem_cons.1 ha with rfl | ha
    · exact .inl List.mem_cons_self
    · exact (ih ha).imp_left (List.mem_cons_of_mem _)
  | right y _ ih =>
    rcases List.mem_cons.1 ha with rfl | ha
    · exact .inr List.mem_cons_self
    · exact (ih ha).imp_right (List.mem_cons_of_mem _)

/-- A selection goes through both lists at once. -/
theorem filter (P : α → Bool) (h : Interleaves xs ys zs) :
    Interleaves (xs.filter P) (ys.filter P) (zs.filter P) := by
  induction h with
  | nil => exact .nil
  | left x _ ih =>
    by_cases hx : P x = true
    · rw [List.filter_cons_of_pos hx, List.filter_cons_of_pos hx]
      exact .left x ih
    · rw [List.filter_cons_of_neg hx, List.filter_cons_of_neg hx]
      exact ih
  | right y _ ih =>
    by_cases hy : P y = true
    · rw [List.filter_cons_of_pos hy, List.filter_cons_of_pos hy]
      exact .right y ih
    · rw [List.filter_cons_of_neg hy, List.filter_cons_of_neg hy]
      exact ih

theorem eq_left (h : Interleaves xs [] zs) : zs = xs := by
  generalize none : ([] : List α) = ys at h
  induction h with
  | nil => rfl
  | left x _ ih => rw [ih none]
  | right y _ _ => cases none

theorem eq_right (h : Interleaves [] ys zs) : zs = ys := by
  generalize none : ([] : List α) = xs at h
  induction h with
  | nil => rfl
  | left x _ _ => cases none
  | right y _ ih => rw [ih none]

end Interleaves

namespace Game

variable {g g₁ : Game} {p q p₁ : PlayerId} {xs ys zs zs' : List Operation}

theorem share_of_others (h : ∀ o ∈ xs, o.IsEconomyOf p) (other : p₁ ≠ p) : share p₁ xs = [] := by
  refine List.filter_eq_nil_iff.2 fun o ho => ?_
  rw [(h o ho).player]
  simpa using other.symm

/-- What a player has to do in an interleaving of the operations of two does not depend on the
interleaving. -/
theorem share_interleaving (distinct : p ≠ q) (hx : ∀ o ∈ xs, o.IsEconomyOf p)
    (hy : ∀ o ∈ ys, o.IsEconomyOf q) (mixed : Interleaves xs ys zs) (p₁ : PlayerId) :
    share p₁ zs = if p₁ = p then share p₁ xs else share p₁ ys := by
  have parts : Interleaves (share p₁ xs) (share p₁ ys) (share p₁ zs) := mixed.filter _
  by_cases first : p₁ = p
  · have other : p₁ ≠ q := first ▸ distinct
    rw [share_of_others hy other] at parts
    rw [if_pos first]
    exact parts.eq_left
  · rw [share_of_others hx first] at parts
    rw [if_neg first]
    exact parts.eq_right

theorem economic_interleaving (hx : ∀ o ∈ xs, o.IsEconomyOf p) (hy : ∀ o ∈ ys, o.IsEconomyOf q)
    (mixed : Interleaves xs ys zs) : Economic zs := by
  intro o ho
  rcases mixed.mem ho with ho | ho
  · exact ⟨p, hx o ho⟩
  · exact ⟨q, hy o ho⟩

theorem economic_produce (ps : List PlayerId) : Economic (ps.map .produce) := by
  intro o ho
  obtain ⟨p, -, rfl⟩ := List.mem_map.1 ho
  exact ⟨p, rfl, rfl⟩

theorem share_produce (p : PlayerId) (ps : List PlayerId) :
    share p (ps.map .produce) = List.replicate (ps.count p) (.produce p) := by
  rw [share, List.filter_map]
  have named : ((fun o : Operation => decide (o.player = some p)) ∘ Operation.produce) = (· == p) := by
    funext p₁
    rw [Function.comp_apply, beq_eq_decide]
    simp [Operation.produce]
  rw [named, List.filter_beq, List.map_replicate]

/-- **The economies of two players do not interfere**: if the operations of both are accepted in one
interleaving then they are in every interleaving, which leads to the same game but for the log.
Likewise players may produce in any order. -/
theorem economies_independent (distinct : p ≠ q) (hx : ∀ o ∈ xs, o.IsEconomyOf p)
    (hy : ∀ o ∈ ys, o.IsEconomyOf q) (mixed : Interleaves xs ys zs)
    (accepted : g.executeAll zs = .accepted g₁) :
    (∀ zs', Interleaves xs ys zs' →
      g.executeAll zs' = .accepted { g₁ with log := g.log ++ zs' }) ∧
    ∀ (ps ps' : List PlayerId) (g₂ : Game), ps.Perm ps' →
      g.executeAll (ps.map .produce) = .accepted g₂ →
        g.executeAll (ps'.map .produce) =
          .accepted { g₂ with log := g.log ++ ps'.map .produce } := by
  constructor
  · intro zs' mixed'
    refine executeAll_of_shares (economic_interleaving hx hy mixed)
      (economic_interleaving hx hy mixed') (fun p₁ => ?_) accepted
    rw [share_interleaving distinct hx hy mixed, share_interleaving distinct hx hy mixed']
  · intro ps ps' g₂ reordered produced
    refine executeAll_of_shares (economic_produce ps) (economic_produce ps') (fun p₁ => ?_) produced
    rw [share_produce, share_produce, reordered.count_eq]

/-- A game of two players, one of whom has money and the other nothing. -/
def market : Game where
  board := .standard
  players := Table.ofList
    [(1, { id := 1, resources := Table.ofList [(.megacredits, 3)] }), (2, { id := 2 })]

/-- A card is bought, played and paid for by later production. -/
def investment : List Operation :=
  [.purchaseCards 1 [sponsors], .putCardIntoPlay 1 sponsors 0, .changeProduction 1 (some .megacredits) 2,
    .produce 1]

/-- A steel production is built up and used. -/
def steelworks : List Operation :=
  [.changeProduction 2 (some .steel) 1, .produce 2, .changeResources 2 (some .steel) (-1)]

/-- The one and the other, turn by turn. -/
def takingTurns : List Operation :=
  [.purchaseCards 1 [sponsors], .changeProduction 2 (some .steel) 1, .putCardIntoPlay 1 sponsors 0,
    .produce 2, .changeProduction 1 (some .megacredits) 2, .changeResources 2 (some .steel) (-1),
    .produce 1]

/-- In `market` the players may go one after the other as well as in turns, and produce in either
order. -/
theorem economies_independent_market :
    ∃ g₁, Interleaves investment steelworks takingTurns ∧
      market.executeAll takingTurns = .accepted g₁ ∧
      market.executeAll (steelworks ++ investment) =
        .accepted { g₁ with log := steelworks ++ investment } ∧
      ∃ g₂, market.executeAll [.produce 1, .produce 2] = .accepted g₂ ∧
        market.executeAll [.produce 2, .produce 1] =
          .accepted { g₂ with log := [.produce 2, .produce 1] } := by
  have mixed : Interleaves investment steelworks takingTurns :=
    .left _ (.right _ (.left _ (.right _ (.left _ (.right _ (.left _ .nil))))))
  have after : Interleaves investment steelworks (steelworks ++ investment) :=
    .right _ (.right _ (.right _ (.left _ (.left _ (.left _ (.left _ .nil))))))
  have buyer : ∀ o ∈ investment, o.IsEconomyOf 1 := by
    simp only [investment, List.forall_mem_cons]
    exact ⟨⟨rfl, rfl⟩, ⟨rfl, rfl⟩, ⟨rfl, rfl⟩, ⟨rfl, rfl⟩, fun _ ho => nomatch ho⟩
  have smith : ∀ o ∈ steelworks, o.IsEconomyOf 2 := by
    simp only [steelworks, List.forall_mem_cons]
    exact ⟨⟨rfl, rfl⟩, ⟨rfl, rfl⟩, ⟨rfl, rfl⟩, fun _ ho => nomatch ho⟩
  have runs : (market.executeAll takingTurns).toExcept.toOption.isSome = true := by decide +kernel
  have produces : (market.executeAll [.produce 1, .produce 2]).toExcept.toOption.isSome = true := by
    decide +kernel
  obtain ⟨g₁, hg₁⟩ := Option.isSome_iff_exists.1 runs
  obtain ⟨g₂, hg₂⟩ := Option.isSome_iff_exists.1 produces
  have accepted := toExcept_eq_ok.1 (toOption_eq_some.1 hg₁)
  have produced := toExcept_eq_ok.1 (toOption_eq_some.1 hg₂)
  obtain ⟨others, anyOrder⟩ :=
    economies_independent (by decide : (1 : PlayerId) ≠ 2) buyer smith mixed accepted
  exact ⟨g₁, mixed, accepted, others _ after, g₂, produced,
    anyOrder [1, 2] [2, 1] g₂ (.swap 2 1 []) produced⟩

end Game

end Terraforming
