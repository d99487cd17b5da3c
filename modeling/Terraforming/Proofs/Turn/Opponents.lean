import Terraforming.Proofs.Player.Sound
import Terraforming.Proofs.Turn.Accounts
import Terraforming.Proofs.Turn.Decisions
import Terraforming.Proofs.Turn.Replay
import Terraforming.Proofs.Turn.Targets

/-!
# What a turn does to opponents

While nobody has an effect that takes, a turn leaves the opponents what they have, but for what is aimed
at them: plants, which do not fall below nothing, production, which does not fall below its floor, and
resources on cards that are not protected.

* `Player.Spared` — what may become of an opponent, as a preorder on players;
* `Game.Touches` — every operation of a turn is about the player whose turn it is, or comes of an effect,
  or is aimed; `Game.Touches.spares` is one such operation, `Game.touches_accounts` all of them;
* `Game.opponents_spared` — every turn, and impacts that are taken up again.
-/

namespace Terraforming

/-! ## Being spared -/

/-- What may become of `q` when somebody else takes a turn; only the production of what is `Reduced`
falls. -/
structure Player.Spared (Reduced : Resource → Prop) (q q' : Player) : Prop where
  same : q' = { q with
    resources := q'.resources
    production := q'.production
    cardResources := q'.cardResources }
  balances : ∀ r, r ≠ .plants → q.balance (some r) ≤ q'.balance (some r)
  plants : 0 ≤ q.balance (some .plants) → 0 ≤ q'.balance (some .plants)
  production : ∀ r, q'.productionOf (some r) < q.productionOf (some r) →
    Reduced r ∧ q'.productionFloor (some r) ≤ q'.productionOf (some r)
  guarded : ∀ i k, some k ∈ q.protectedKinds i → q.held i (some k) ≤ q'.held i (some k)
  held : ∀ i k, q'.held i (some k) < q.held i (some k) → 0 ≤ q'.held i (some k)

namespace Player

variable {Reduced Reduced' : Resource → Prop} {q q' q'' : Player} {r : Resource} {i n : Int}
  {k : CardResource}

namespace Spared

theorem refl (q : Player) : q.Spared Reduced q where
  same := rfl
  balances _ _ := Int.le_refl _
  plants kept := kept
  production _ lower := absurd lower (Int.lt_irrefl _)
  guarded _ _ _ := Int.le_refl _
  held _ _ lower := absurd lower (Int.lt_irrefl _)

theorem mono (h : q.Spared Reduced q') (more : ∀ r, Reduced r → Reduced' r) :
    q.Spared Reduced' q' :=
  { h with production := fun r lower => (h.production r lower).imp_left (more r) }

theorem protectedKinds (h : q.Spared Reduced q') (i : Int) :
    q'.protectedKinds i = q.protectedKinds i := by
  rw [h.same]
  rfl

theorem productionFloor (h : q.Spared Reduced q') (r : Option Resource) :
    q'.productionFloor r = q.productionFloor r := by
  rw [h.same]
  rfl

theorem trans (h : q.Spared Reduced q') (h' : q'.Spared Reduced q'') : q.Spared Reduced q'' where
  same := by
    rw [h'.same, h.same]
  balances r other := Int.le_trans (h.balances r other) (h'.balances r other)
  plants := h'.plants ∘ h.plants
  production r lower := by
    by_cases later : q''.productionOf (some r) < q'.productionOf (some r)
    · exact h'.production r later
    · have kept := Int.not_lt.1 later
      obtain ⟨reduced, floor⟩ := h.production r (Int.lt_of_le_of_lt kept lower)
      rw [← h'.productionFloor] at floor
      exact ⟨reduced, Int.le_trans floor kept⟩
  guarded i k guarded :=
    Int.le_trans (h.guarded i k guarded) (h'.guarded i k (h.protectedKinds i ▸ guarded))
  held i k lower := by
    by_cases later : q''.held i (some k) < q'.held i (some k)
    · exact h'.held i k later
    · have kept := Int.not_lt.1 later
      exact Int.le_trans (h.held i k (Int.lt_of_le_of_lt kept lower)) kept

end Spared

theorem balance_insert (q : Player) (r r' : Resource) (n : Int) :
    ({ q with resources := q.resources.insert r n } : Player).balance (some r') =
      if r' = r then n else q.balance (some r') :=
  Pool.amount_insert q.resources r r' n

theorem productionOf_insert (q : Player) (r r' : Resource) (n : Int) :
    ({ q with production := q.production.insert r n } : Player).productionOf (some r') =
      if r' = r then n else q.productionOf (some r') :=
  Pool.amount_insert q.production r r' n

theorem held_insert (q : Player) (i i' : Int) (k k' : CardResource) (n : Int) :
    ({ q with cardResources := q.cardResources.insert ⟨i, k⟩ n } : Player).held i' (some k') =
      if (⟨i', k'⟩ : Holding) = ⟨i, k⟩ then n else q.held i' (some k') :=
  Table.getD_insert q.cardResources ⟨i, k⟩ ⟨i', k'⟩ n 0

/-- A balance that grows, or plants that do not fall below nothing. -/
theorem spared_resources (enough : 0 ≤ q.balance (some r) + n) (gain : 0 ≤ n ∨ r = .plants) :
    q.Spared Reduced { q with resources := q.resources.insert r (q.balance (some r) + n) } := by
  refine { (Spared.refl q : q.Spared Reduced q) with same := rfl, balances := ?_, plants := ?_ }
  · intro r' other
    rw [balance_insert]
    split
    next same =>
      subst same
      have := gain.resolve_right other
      omega
    next => exact Int.le_refl _
  · intro start
    rw [balance_insert]
    split
    · exact enough
    · exact start

/-- A production that grows, or is reduced and does not fall below the floor. -/
theorem spared_production (level : q.productionFloor (some r) ≤ q.productionOf (some r) + n)
    (gain : 0 ≤ n ∨ Reduced r) :
    q.Spared Reduced
      { q with production := q.production.insert r (q.productionOf (some r) + n) } := by
  refine { (Spared.refl q : q.Spared Reduced q) with same := rfl, production := ?_ }
  intro r' lower
  rw [productionOf_insert] at lower ⊢
  split at lower
  next same =>
    subst same
    rw [if_pos rfl]
    exact ⟨gain.resolve_left (by omega), level⟩
  next => exact absurd lower (Int.lt_irrefl _)

/-- More resources on a card, or resources taken off that are not protected. -/
theorem spared_cardResources (enough : 0 ≤ q.held i (some k) + n)
    (gain : 0 ≤ n ∨ some k ∉ q.protectedKinds i) :
    q.Spared Reduced
      { q with cardResources := q.cardResources.insert ⟨i, k⟩ (q.held i (some k) + n) } := by
  refine { (Spared.refl q : q.Spared Reduced q) with same := rfl, guarded := ?_, held := ?_ }
  · intro i' k' guarded
    rw [held_insert]
    split
    next same =>
      cases same
      have := gain.resolve_right fun free => free guarded
      omega
    next => exact Int.le_refl _
  · intro i' k' lower
    rw [held_insert] at lower ⊢
    split at lower
    next same =>
      rw [if_pos same]
      exact enough
    next => exact absurd lower (Int.lt_irrefl _)

end Player

/-! ## One operation -/

namespace Game

variable {g g' : Game} {p r : PlayerId} {n : Int}

theorem execute_changeResources {res : Option Resource}
    (h : g.execute (.changeResources p res n) = .accepted g') :
    ∃ r q, res = some r ∧ g.player? p = some q ∧ 0 ≤ q.balance (some r) + n ∧
      g'.player? p = some { q with
        resources := q.resources.insert r (q.balance (some r) + n) } := by
  obtain ⟨c, g₁, read, carried, rfl⟩ := execute_eq_accepted.1 h
  cases res with
  | none => cases read
  | some r =>
    cases read
    obtain ⟨q, hq, enough, rfl⟩ := changeResources_eq_ok.1 carried
    exact ⟨r, q, rfl, hq, enough, player?_withPlayer.trans (if_pos rfl)⟩

theorem execute_changeProduction {res : Option Resource}
    (h : g.execute (.changeProduction p res n) = .accepted g') :
    ∃ r q, res = some r ∧ g.player? p = some q ∧
      q.productionFloor (some r) ≤ q.productionOf (some r) + n ∧
      g'.player? p = some { q with
        production := q.production.insert r (q.productionOf (some r) + n) } := by
  obtain ⟨c, g₁, read, carried, rfl⟩ := execute_eq_accepted.1 h
  cases res with
  | none => cases read
  | some r =>
    cases read
    obtain ⟨q, hq, level, rfl⟩ := changeProduction_eq_ok.1 carried
    exact ⟨r, q, rfl, hq, level, player?_withPlayer.trans (if_pos rfl)⟩

theorem execute_changeCardResource {i : Int} {kind : Option CardResource}
    (h : g.execute (.changeCardResource p i kind n) = .accepted g') :
    ∃ k q, kind = some k ∧ g.player? p = some q ∧ 0 ≤ q.held i (some k) + n ∧
      g'.player? p = some { q with
        cardResources := q.cardResources.insert ⟨i, k⟩ (q.held i (some k) + n) } := by
  obtain ⟨c, g₁, read, carried, rfl⟩ := execute_eq_accepted.1 h
  cases kind with
  | none => cases read
  | some k =>
    cases read
    obtain ⟨q, d, hq, -, -, enough, rfl⟩ := changeCardResource_eq_ok.1 carried
    exact ⟨k, q, rfl, hq, enough, player?_withPlayer.trans (if_pos rfl)⟩

end Game

section

variable (g₀ : Game) (p : PlayerId) (cs : List Choice) (Printed : Impact → Prop)

/-- In the game `h`, an impact of a turn from `g₀` was aimed at `r` by one of the choices, and the
operation reduces the production of `res` for it. -/
def Game.Reduces (r : PlayerId) (h : Game) (o : Operation) (res : Resource) : Prop :=
  ∃ i source c, g₀.Origin Printed i ∧ i.type = .reduceAnyProduction ∧ i.resource = some res ∧
    c ∈ cs ∧ c.player = some r ∧ i.Does p source h [c] [o] []

/-- What an operation of a turn of `p` from `g₀` is, in the game `h` that it meets. -/
inductive Game.Touches (h : Game) (o : Operation) : Prop where
  | own : o.Own p → Touches h o
  | effect {r : PlayerId} {q : Player} {e : ActiveEffect} : g₀.player? r = some q → e ∈ q.effects →
      e.Brings r o → Touches h o
  | aimed {i : Impact} {source : Option Int} {answer : List Choice} : g₀.Origin Printed i →
      i.type.aims = true → i.Does p source h answer [o] [] → answer ⊆ cs → Touches h o

end

namespace Game

variable {g₀ g g' h h' : Game} {p r : PlayerId} {cs : List Choice} {Printed : Impact → Prop}
  {o : Operation} {q q' : Player} {os : List Operation}

/-- No effect of anybody takes. -/
def Gainful (g : Game) : Prop := ∀ r q, g.player? r = some q → ∀ e ∈ q.effects, 0 ≤ e.effect.count

/-- What an effect brings spares its owner. -/
theorem brings_spares {e : ActiveEffect} {Reduced : Resource → Prop} (brings : e.Brings r o)
    (gain : 0 ≤ e.effect.count) (accepted : h.execute o = .accepted h')
    (hq : h.player? r = some q) :
    ∃ q', h'.player? r = some q' ∧ q.Spared Reduced q' := by
  have times : ∀ n : Nat, 0 ≤ e.effect.count * n := fun n =>
    Int.mul_nonneg gain (Int.natCast_nonneg n)
  cases brings with
  | cardResource =>
    obtain ⟨k, q₁, -, hq₁, enough, after⟩ := execute_changeCardResource accepted
    cases hq.symm.trans hq₁
    exact ⟨_, after, Player.spared_cardResources enough (.inl gain)⟩
  | resources res n =>
    obtain ⟨res, q₁, -, hq₁, enough, after⟩ := execute_changeResources accepted
    cases hq.symm.trans hq₁
    exact ⟨_, after, Player.spared_resources enough (.inl (times n))⟩
  | production res n =>
    obtain ⟨res, q₁, -, hq₁, level, after⟩ := execute_changeProduction accepted
    cases hq.symm.trans hq₁
    exact ⟨_, after, Player.spared_production level (.inl (times n))⟩

/-- What is aimed spares whom it is aimed at. -/
theorem aimed_spares {i : Impact} {source : Option Int} {answer : List Choice}
    (origin : g₀.Origin Printed i) (type : i.type.aims = true)
    (does : i.Does p source h answer [o] []) (among : answer ⊆ cs) (other : r ≠ p)
    (about : o.player = some r) (accepted : h.execute o = .accepted h')
    (hq : h.player? r = some q) :
    ∃ q', h'.player? r = some q' ∧ q.Spared (g₀.Reduces p cs Printed r h o) q' := by
  cases ht : i.type with
  | removeResourceFromAnyCard =>
    obtain ⟨c, r', n, q₁, rfl, -, hq₁, free, ops, -⟩ := does.removal ht
    cases ops
    cases about
    cases hq.symm.trans hq₁
    obtain ⟨k, q₂, kind, hq₂, enough, after⟩ := execute_changeCardResource accepted
    cases hq.symm.trans hq₂
    exact ⟨_, after, Player.spared_cardResources enough (.inr (kind ▸ free.resolve_left other))⟩
  | destroyAnyPlants =>
    obtain ⟨c, r', q₁, rfl, -, hq₁, ops, -⟩ := does.plants ht
    cases ops
    cases about
    obtain ⟨res, q₂, plants, hq₂, enough, after⟩ := execute_changeResources accepted
    cases plants
    cases hq.symm.trans hq₂
    exact ⟨_, after, Player.spared_resources enough (.inr rfl)⟩
  | reduceAnyProduction =>
    have aimed := does
    obtain ⟨c, r', q₁, rfl, named, hq₁, -, ops, -⟩ := does.reduction ht
    cases ops
    cases about
    obtain ⟨res, q₂, resource, hq₂, level, after⟩ := execute_changeProduction accepted
    cases hq.symm.trans hq₂
    have reduces : g₀.Reduces p cs Printed r h _ res :=
      ⟨i, source, c, origin, ht, resource, among (List.mem_singleton_self c), named, aimed⟩
    exact ⟨_, after, Player.spared_production level (.inr reduces)⟩
  | _ =>
    rw [ht] at type
    cases type

/-- **One operation** of a turn spares an opponent. -/
theorem Touches.spares (touches : g₀.Touches p cs Printed h o) (gainful : g₀.Gainful)
    (other : r ≠ p) (accepted : h.execute o = .accepted h') (hq : h.player? r = some q) :
    ∃ q', h'.player? r = some q' ∧ q.Spared (g₀.Reduces p cs Printed r h o) q' := by
  have passed : o.Passes r →
      ∃ q', h'.player? r = some q' ∧ q.Spared (g₀.Reduces p cs Printed r h o) q' :=
    fun passes => ⟨q, (execute_bystander passes accepted).trans hq, .refl q⟩
  cases touches with
  | own own => exact passed (own r other)
  | @effect s q₀ e hq₀ he brings =>
    by_cases same : s = r
    · subst same
      exact brings_spares brings (gainful s q₀ hq₀ e he) accepted hq
    · exact passed (brings.own r (Ne.symm same))
  | aimed origin type does among =>
    by_cases about : o.player = some r
    · exact aimed_spares origin type does among other about accepted hq
    · exact passed ⟨about, does.keepsUsed o (List.mem_singleton_self o)⟩

/-- The effects of opponents stay as they were. -/
theorem Touches.effects (touches : g₀.Touches p cs Printed h o) (other : r ≠ p)
    (accepted : h.execute o = .accepted h') :
    (h'.player? r).map Player.effects = (h.player? r).map Player.effects := by
  have quietly : o.addsPassive = false →
      (h'.player? r).map Player.effects = (h.player? r).map Player.effects := by
    intro quiet
    have same := execute_passives quiet accepted
    rw [← get?_passives, ← get?_passives, same]
  cases touches with
  | own own => exact congrArg _ (execute_bystander (own r other) accepted)
  | effect _ _ brings => exact quietly brings.quiet
  | aimed _ type does _ => exact quietly (does.quiet type o (List.mem_singleton_self o))

/-! ## Every operation -/

/-- The opponents of `p` have the effects that they have in `g₀`. -/
def KeepsEffects (g₀ : Game) (p : PlayerId) (g : Game) : Prop :=
  ∀ r, r ≠ p → (g.player? r).map Player.effects = (g₀.player? r).map Player.effects

theorem keepsEffects_of_trail (trail : g.Trail (g₀.Touches p cs Printed) os)
    (accepted : g.executeAll os = .accepted g') (start : g₀.KeepsEffects p g) :
    g₀.KeepsEffects p g' := by
  induction trail with
  | nil =>
    cases accepted
    exact start
  | cons touches first _ ih =>
    obtain ⟨g₁, hg₁, rest⟩ := executeAll_cons_eq_accepted.1 accepted
    cases first.symm.trans hg₁
    exact ih rest fun r other => (touches.effects other first).trans (start r other)

theorem own_of_introduces (preliminary : o.isPreliminary = true) (about : o.player = some p) :
    o.Own p := by
  refine Operation.Minds.own (.inl about) fun type => ?_
  rw [Operation.isPreliminary, type] at preliminary
  cases preliminary

/-- Preliminaries are about the player whose turn it is, or come of effects. -/
theorem Underway.touches {started : Progress} (underway : g₀.Underway p started) :
    g₀.Trail (g₀.Touches p cs Printed) started.operations := by
  refine trail_of_forall underway.leads fun h o ho => ?_
  obtain about | ⟨c, reacts⟩ := underway.introduces o ho
  · exact .own (own_of_introduces (underway.preliminaries o ho) about)
  · obtain ⟨r, q, e, hq, he, reacts⟩ := mem_reactions reacts
    exact .effect hq he (ActiveEffect.brings_of_onCard reacts)

theorem touches_reactions {i : Impact} (start : g₀.KeepsEffects p g)
    (accepted : g.executeAll (g.reactionsToImpact p i) = .accepted g') :
    g.Trail (g₀.Touches p cs Printed) (g.reactionsToImpact p i) := by
  refine trail_of_forall accepted fun h o ho => ?_
  obtain ⟨r, q, e, hq, he, reacts⟩ := mem_reactions ho
  have brings := ActiveEffect.brings_of_onImpact reacts
  by_cases own : r = p
  · exact .own (own ▸ brings.own)
  · have same := start r own
    rw [hq] at same
    obtain ⟨q₀, hq₀, effects⟩ := Option.map_eq_some_iff.1 same.symm
    exact .effect hq₀ (effects ▸ he) brings

theorem touches_impact {i : Impact} {source : Option Int} {answer : List Choice}
    {ops : List Operation} {more : List Impact}
    (origin : g₀.Origin Printed i ∨ i.type = .gainResource)
    (does : i.Does p source g answer ops more) (among : answer ⊆ cs)
    (accepted : g.executeAll ops = .accepted g') : g.Trail (g₀.Touches p cs Printed) ops := by
  cases type : i.type.aims with
  | false => exact trail_of_forall accepted fun h o ho => .own (does.own type o ho)
  | true =>
    have printed : g₀.Origin Printed i := origin.resolve_right fun gain => by
      rw [gain] at type
      cases type
    obtain ⟨o, rfl, rfl⟩ := does.aimed type
    obtain ⟨g₁, first, -⟩ := executeAll_cons_eq_accepted.1 accepted
    exact .cons (.aimed printed type does among) first (.nil g₁)

/-- **Every operation** of a turn touches opponents like this. -/
theorem touches_accounts :
    Impact.Accounts g₀ p cs Printed (g₀.KeepsEffects p) (Trail (g₀.Touches p cs Printed)) where
  nil := .nil
  append told accepted later := told.append accepted later
  keeps start trail accepted := keepsEffects_of_trail trail accepted start
  impact _ origin does among accepted := touches_impact origin does among accepted
  reactions start accepted := touches_reactions start accepted

/-- A run of such operations spares an opponent. -/
theorem spared_of_trail (trail : g.Trail (g₀.Touches p cs Printed) os) (gainful : g₀.Gainful)
    (other : r ≠ p) (accepted : g.executeAll os = .accepted g') (hq : g.player? r = some q) :
    ∃ q', g'.player? r = some q' ∧ q.Spared (fun res => ∃ pre o post h, pre ++ o :: post = os ∧
      g.executeAll pre = .accepted h ∧ g₀.Reduces p cs Printed r h o res) q' := by
  induction trail generalizing q with
  | nil =>
    cases accepted
    exact ⟨q, hq, .refl q⟩
  | @cons g g₁ o os touches first _ ih =>
    obtain ⟨g₂, hg₂, rest⟩ := executeAll_cons_eq_accepted.1 accepted
    cases first.symm.trans hg₂
    obtain ⟨q₁, hq₁, here⟩ := touches.spares gainful other first hq
    obtain ⟨q', hq', later⟩ := ih rest hq₁
    refine ⟨q', hq', (here.mono fun res reduces => ?_).trans (later.mono ?_)⟩
    · exact ⟨[], o, os, g, rfl, rfl, reduces⟩
    · rintro res ⟨pre, o', post, h, rfl, leads, reduces⟩
      exact ⟨o :: pre, o', post, h, rfl, executeAll_cons_eq_accepted.2 ⟨g₁, first, leads⟩, reduces⟩

/-! ## Every turn -/

/-- The operations of a turn are such a run. -/
theorem Acts.touches {a : Attempt} (acts : g.Acts p cs Printed a) (hg : a.game? = some g') :
    g.Trail (g.Touches p cs (Impact.Below Printed)) a.operations :=
  touches_accounts.begins acts.begins hg (fun _ _ => rfl) (fun underway => underway.touches)
    fun _ hi => Impact.throughout_below hi

/-- **Opponents are spared**, by a turn as a whole and by every operation of it; and where a production
falls, it was aimed at, by an impact that is printed for the turn or on the board. -/
theorem opponents_spared {a : Attempt} (acts : g.Acts p cs Printed a) (hg : a.game? = some g')
    (gainful : g.Gainful) (other : r ≠ p) (hq' : g'.player? r = some q') :
    (∃ q, g.player? r = some q ∧ q.Spared (fun res => ∃ pre o post h,
      pre ++ o :: post = a.operations ∧ g.executeAll pre = .accepted h ∧
      g.Reduces p cs (Impact.Below Printed) r h o res) q') ∧
    ∀ pre o post, pre ++ o :: post = a.operations → ∃ h h' q₁ q₂, g.executeAll pre = .accepted h ∧
      h.execute o = .accepted h' ∧ h.player? r = some q₁ ∧ h'.player? r = some q₂ ∧
      q₁.Spared (g.Reduces p cs (Impact.Below Printed) r h o) q₂ := by
  have trail := acts.touches hg
  have accepted : g.executeAll a.operations = .accepted g' := acts.begins.replays g' hg
  have seated : r ∈ g.playerIds := playerIds_executeAll accepted ▸ mem_playerIds.2 ⟨q', hq'⟩
  constructor
  · obtain ⟨q, hq⟩ := mem_playerIds.1 seated
    obtain ⟨q₁, hq₁, spared⟩ := spared_of_trail trail gainful other accepted hq
    cases hq'.symm.trans hq₁
    exact ⟨q, hq, spared⟩
  · intro pre o post split
    obtain ⟨h, h', leads, here, touches⟩ := trail.meets split
    obtain ⟨q₁, hq₁⟩ := mem_playerIds.1 (playerIds_executeAll leads ▸ seated)
    obtain ⟨q₂, hq₂, spared⟩ := touches.spares gainful other here hq₁
    exact ⟨h, h', q₁, q₂, leads, here, hq₁, hq₂, spared⟩

/-- A game of two players, of whom the second produces energy. -/
def raid : Game where
  board := .standard
  players := Table.ofList [(1, { id := 1 }), (2, { id := 2, production := Pool.zero.insert .energy 2 })]

theorem gainful_raid : raid.Gainful := by
  intro r q hq e he
  have plain : ∀ x ∈ raid.players.entries, x.2.effects = [] := by decide +kernel
  rw [plain (r, q) (Table.get?_eq_some_iff.1 hq)] at he
  cases he

/-- In `raid` the first player aims at the energy production of the second, who keeps one. -/
theorem opponents_spared_raid :
    ∃ a g' q q', raid.Acts 1 [.ofPlayer 2] (· ∈ [.reduceAnyProduction .energy 1]) a ∧
      a.game? = some g' ∧ raid.Gainful ∧ (2 : PlayerId) ≠ 1 ∧ raid.player? 2 = some q ∧
      g'.player? 2 = some q' ∧ q.productionOf (some .energy) = 2 ∧
      q'.productionOf (some .energy) = 1 ∧
      ∃ pre o post h, pre ++ o :: post = a.operations ∧ raid.executeAll pre = .accepted h ∧
        raid.Reduces 1 [.ofPlayer 2] (Impact.Below (· ∈ [.reduceAnyProduction .energy 1]))
          2 h o .energy := by
  obtain ⟨ops, g', resolved, after⟩ : ∃ ops g',
      raid.resolve 1 [.reduceAnyProduction .energy 1] [.ofPlayer 2] = .ok (.complete ops g') ∧
      (g'.player? 2).map (·.productionOf (some .energy)) = some 1 := by
    refine ⟨_, _, Impact.resolve_answered (i := .reduceAnyProduction .energy 1) rfl rfl rfl rfl, ?_⟩
    decide +kernel
  obtain ⟨q', hq', left⟩ := Option.map_eq_some_iff.1 after
  have acts : raid.Acts 1 [.ofPlayer 2] (· ∈ [.reduceAnyProduction .energy 1]) (.complete ops g') :=
    .resumption resolved
  obtain ⟨⟨q, hq, spared⟩, -⟩ := opponents_spared acts rfl gainful_raid (by decide) hq'
  have before : q.productionOf (some .energy) = 2 := by
    have start : (raid.player? 2).map (·.productionOf (some .energy)) = some 2 := by decide +kernel
    rw [hq] at start
    exact Option.some.inj start
  have lower : q'.productionOf (some .energy) < q.productionOf (some .energy) := by
    rw [left, before]
    decide
  exact ⟨_, g', q, q', acts, rfl, gainful_raid, by decide, hq, hq', before, left,
    (spared.production .energy lower).1⟩

end Game

end Terraforming
