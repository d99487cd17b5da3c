import Terraforming.Proofs.Game.Log
import Terraforming.Proofs.Game.Regular
import Terraforming.Proofs.Turn.Reactions

/-!
# Operations that are accepted

What it takes for operations to be accepted in a regular game, so that they lead to another one
(`Game.Reaches`).

* `reaches_run` — one operation, from the command that it is;
* `reaches_payment`, `reaches_productions`, `reaches_addEffects` — lists of operations on one player,
  each of which leaves alone what the later ones ask for;
* `Operation.Gains` — a gain of someone who is there, accepted whenever it comes
  (`reaches_gains`); the reactions of passive effects are gains (`gains_reactionsToImpact`,
  `gains_reactionsToCard`).
-/

namespace Terraforming

namespace Game

/-- The game with an operation noted in the log. -/
def note (g : Game) (o : Operation) : Game := { g with log := g.log ++ [o] }

/-- The operations are accepted and lead to a regular game that keeps what there was. -/
structure Reaches (g : Game) (os : List Operation) (g' : Game) : Prop where
  accepted : g.executeAll os = .accepted g'
  regular : g'.Regular
  keeps : g.Keeps g'

variable {g g' g'' : Game} {o : Operation} {os xs ys : List Operation} {c : Command}
  {p : PlayerId} {q : Player} {r : Resource} {n : Int}

theorem Regular.note (regular : g.Regular) (o : Operation) : (g.note o).Regular :=
  ⟨regular.sound.of_same rfl rfl rfl rfl, regular.owned, regular.stocked.of_same rfl rfl rfl rfl⟩

namespace Reaches

theorem nil (regular : g.Regular) : g.Reaches [] g := ⟨rfl, regular, .refl g⟩

theorem append (hx : g.Reaches xs g') (hy : g'.Reaches ys g'') : g.Reaches (xs ++ ys) g'' :=
  ⟨executeAll_trans hx.accepted hy.accepted, hy.regular, hx.keeps.trans hy.keeps⟩

theorem cons (ho : g.Reaches [o] g') (hos : g'.Reaches os g'') : g.Reaches (o :: os) g'' :=
  ho.append hos

end Reaches

/-! ## One operation -/

/-- An operation is accepted when its command is carried out. -/
theorem reaches_run (regular : g.Regular) (ho : o.command? = .ok c) (proper : c.Proper g)
    (h : g.run c = .ok g') : g.Reaches [o] (g'.note o) := by
  obtain ⟨regular', kept⟩ := run_regular regular proper h
  have accepted : g.execute o = .accepted (g'.note o) :=
    execute_eq_accepted.2 ⟨c, g', ho, h, rfl⟩
  exact ⟨executeAll_singleton accepted, regular'.note o, kept⟩

/-- A regular game stays regular under operations that are proper in any game. -/
theorem Regular.reaches (regular : g.Regular)
    (proper : ∀ o ∈ os, ∀ h c, o.command? = .ok c → c.Proper h) (h : g.executeAll os = .accepted g') :
    g.Reaches os g' := by
  induction os generalizing g with
  | nil =>
    cases h
    exact .nil regular
  | cons o os ih =>
    obtain ⟨g₁, first, rest⟩ := executeAll_cons_eq_accepted.1 h
    obtain ⟨c, _, ho, carried, rfl⟩ := execute_eq_accepted.1 first
    have step := reaches_run regular ho (proper o List.mem_cons_self g c ho) carried
    exact step.cons (ih step.regular (fun o' ho' => proper o' (List.mem_cons_of_mem _ ho')) rest)

theorem reaches_changeResources (regular : g.Regular) (hq : g.player? p = some q)
    (enough : 0 ≤ q.balance (some r) + n) :
    g.Reaches [.changeResources p r n]
      ((g.withPlayer p { q with
        resources := q.resources.insert r (q.balance (some r) + n) }).note
          (.changeResources p r n)) :=
  reaches_run (c := .changeResources p r n) regular rfl trivial
    (changeResources_eq_ok.2 ⟨q, hq, enough, rfl⟩)

theorem reaches_changeProduction (regular : g.Regular) (hq : g.player? p = some q)
    (enough : q.productionFloor (some r) ≤ q.productionOf (some r) + n) :
    g.Reaches [.changeProduction p r n]
      ((g.withPlayer p { q with
        production := q.production.insert r (q.productionOf (some r) + n) }).note
          (.changeProduction p r n)) :=
  reaches_run (c := .changeProduction p r n) regular rfl trivial
    (changeProduction_eq_ok.2 ⟨q, hq, enough, rfl⟩)

theorem reaches_changeCardResource {i : Int} {d : PlayedCard} {kind : CardResource}
    (regular : g.Regular) (hq : g.player? p = some q) (hd : q.played? i = some d)
    (holds : d.card.supportedResource? = some kind) (enough : 0 ≤ q.held i (some kind) + n) :
    ∃ g', g.Reaches [.changeCardResource p i kind n] g' :=
  ⟨_, reaches_run (c := .changeCardResource p i kind n) regular rfl trivial
    (changeCardResource_eq_ok.2 ⟨q, d, hq, hd, holds, enough, rfl⟩)⟩

theorem reaches_raiseTerraformRating (regular : g.Regular) (hq : g.player? p = some q)
    (hn : 0 ≤ n) : ∃ g', g.Reaches [.raiseTerraformRating p n] g' :=
  ⟨_, reaches_run (c := .raiseTerraformRating p n) regular rfl hn
    (update_eq_ok.2 ⟨q, hq, rfl⟩)⟩

theorem reaches_addEffect {i : Int} {d : PlayedCard} {e : Effect} (regular : g.Regular)
    (hq : g.player? p = some q) (hd : q.played? i = some d)
    (ready : e.ready d.card.supportedResource? = true) :
    g.Reaches [.addEffect p i e]
      ((g.withPlayer p { q with effects := q.effects ++ [⟨i, e⟩] }).note (.addEffect p i e)) := by
  refine reaches_run (c := .addEffect p i e) regular rfl ?_
    (addEffect_eq_ok.2 ⟨q, i, hq, rfl, Option.isSome_iff_exists.2 ⟨d, hd⟩, rfl⟩)
  rintro q' i' d' hq' ⟨⟩ hd'
  obtain rfl : q' = q := Option.some.inj (hq'.symm.trans hq)
  obtain rfl : d' = d := Option.some.inj (hd'.symm.trans hd)
  exact ready

/-- As many cards as are drawn come into the hand. -/
theorem draw_hand (h : g.draw p n = .ok g') :
    ∃ q q' drawn, g.player? p = some q ∧ g'.player? p = some q' ∧
      drawn.length = n.toNat ∧ q'.hand = q.hand ++ drawn := by
  obtain ⟨q, hq, -, ⟨enough, rfl⟩ | ⟨-, enough, rfl⟩⟩ := draw_eq_ok.1 h
  · refine ⟨q, _, g.deck.take n.toNat, hq, player?_withPlayer.trans (if_pos rfl), ?_, rfl⟩
    rw [List.length_take]
    omega
  · have deck : g.reshuffle.deck.length = g.deck.length + g.discard.length := by
      rw [reshuffle, List.length_append, (Generator.shuffle_perm _ _).length_eq]
    refine ⟨q, _, g.reshuffle.deck.take n.toNat, hq, player?_withPlayer.trans (if_pos rfl), ?_, rfl⟩
    rw [List.length_take, deck]
    omega

/-- As many cards can be drawn as the piles hold together. -/
theorem reaches_drawCards (regular : g.Regular) (hq : g.player? p = some q) (hn : 0 ≤ n)
    (few : n ≤ g.deck.length + g.discard.length) :
    ∃ g' q', g.Reaches [.drawCards p n] g' ∧ g'.player? p = some q' ∧
      ∃ drawn, drawn.length = n.toNat ∧ q'.hand = q.hand ++ drawn := by
  have able : ∃ g', g.draw p n = .ok g' := by
    by_cases deck : n ≤ g.deck.length
    · exact ⟨_, draw_eq_ok.2 ⟨q, hq, hn, .inl ⟨deck, rfl⟩⟩⟩
    · exact ⟨_, draw_eq_ok.2 ⟨q, hq, hn, .inr ⟨Int.not_le.1 deck, few, rfl⟩⟩⟩
  obtain ⟨g', drew⟩ := able
  obtain ⟨q₀, q', drawn, hq₀, hq', length, hand⟩ := draw_hand drew
  cases hq.symm.trans hq₀
  exact ⟨_, q', reaches_run (c := .drawCards p n) regular rfl trivial drew, hq', drawn, length, hand⟩

/-! ## Lists of operations on one player -/

/-- A payment that the balances cover. -/
theorem reaches_payment {rs : List Resource} {amount : Resource → Int} (regular : g.Regular)
    (hq : g.player? p = some q) (distinct : rs.Nodup)
    (covered : ∀ r ∈ rs, amount r ≤ q.balance (some r)) :
    ∃ g' resources, g.Reaches (rs.map fun r => .changeResources p (some r) (-amount r)) g' ∧
      g'.player? p = some { q with resources := resources } ∧ g'.deck = g.deck ∧
        g'.discard = g.discard := by
  induction rs generalizing g q with
  | nil => exact ⟨g, q.resources, .nil regular, hq, rfl, rfl⟩
  | cons r rs ih =>
    rw [List.nodup_cons] at distinct
    have enough : 0 ≤ q.balance (some r) + -amount r := by
      have := covered r List.mem_cons_self
      omega
    have first := reaches_changeResources regular hq enough
    obtain ⟨g', resources, rest, found, deck, discard⟩ := ih first.regular
      (player?_withPlayer.trans (if_pos rfl)) distinct.2 (by
        intro r' hr'
        have other : r' ≠ r := fun same => distinct.1 (same ▸ hr')
        show amount r' ≤ Pool.amount (q.resources.insert r _) r'
        rw [Pool.amount_insert, if_neg other]
        exact covered r' (List.mem_cons_of_mem _ hr'))
    exact ⟨g', resources, first.cons rest, found, deck, discard⟩

/-- Changes of production none of which goes too low. -/
theorem reaches_productions {rs : List Resource} (change : Resource → Int) (regular : g.Regular)
    (hq : g.player? p = some q) (distinct : rs.Nodup)
    (enough : ∀ r ∈ rs, q.productionFloor (some r) ≤ q.productionOf (some r) + change r) :
    ∃ g', g.Reaches (rs.map fun r => .changeProduction p (some r) (change r)) g' := by
  induction rs generalizing g q with
  | nil => exact ⟨g, .nil regular⟩
  | cons r rs ih =>
    rw [List.nodup_cons] at distinct
    have first := reaches_changeProduction regular hq (enough r List.mem_cons_self)
    obtain ⟨g', rest⟩ := ih first.regular (player?_withPlayer.trans (if_pos rfl)) distinct.2 (by
      intro r' hr'
      have other : r' ≠ r := fun same => distinct.1 (same ▸ hr')
      show q.productionFloor (some r') ≤ Pool.amount (q.production.insert r _) r' + change r'
      rw [Pool.amount_insert, if_neg other]
      exact enough r' (List.mem_cons_of_mem _ hr'))
    exact ⟨g', first.cons rest⟩

/-- The effects that a card in play prints. -/
theorem reaches_addEffects {i : Int} {d : PlayedCard} {es : List Effect} (regular : g.Regular)
    (hq : g.player? p = some q) (hd : q.played? i = some d)
    (ready : ∀ e ∈ es, e.ready d.card.supportedResource? = true) :
    ∃ g' effects, g.Reaches (es.map (.addEffect p i ·)) g' ∧
      g'.player? p = some { q with effects := effects } := by
  induction es generalizing g q with
  | nil => exact ⟨g, q.effects, .nil regular, hq⟩
  | cons e es ih =>
    have first := reaches_addEffect regular hq hd (ready e List.mem_cons_self)
    obtain ⟨g', effects, rest, found⟩ := ih first.regular
      (player?_withPlayer.trans (if_pos rfl)) hd
      fun e' he' => ready e' (List.mem_cons_of_mem _ he')
    exact ⟨g', effects, first.cons rest, found⟩

end Game

/-! ## Gains -/

/-- A gain of someone who is there: it is accepted whenever it comes. -/
inductive Operation.Gains (g : Game) : Operation → Prop
  | resources {p : PlayerId} {q : Player} {r : Resource} {n : Int} :
      g.player? p = some q → 0 ≤ n → Gains g (.changeResources p r n)
  | production {p : PlayerId} {q : Player} {r : Resource} {n : Int} :
      g.player? p = some q → 0 ≤ n → Gains g (.changeProduction p r n)
  | cardResource {p : PlayerId} {q : Player} {i : Int} {d : PlayedCard} {kind : CardResource}
      {n : Int} : g.player? p = some q → q.played? i = some d →
      d.card.supportedResource? = some kind → 0 ≤ n → Gains g (.changeCardResource p i kind n)
  | rating {p : PlayerId} {q : Player} {n : Int} :
      g.player? p = some q → 0 ≤ n → Gains g (.raiseTerraformRating p n)
  | nextCardEffect {p : PlayerId} {q : Player} {e : Effect} :
      g.player? p = some q → Gains g (.addNextCardEffect p e)

namespace Operation.Gains

variable {g g' : Game} {o : Operation}

theorem mono (h : o.Gains g) (kept : g.Keeps g') : o.Gains g' := by
  cases h with
  | resources hq hn =>
    obtain ⟨q', hq', -⟩ := kept _ _ hq
    exact .resources hq' hn
  | production hq hn =>
    obtain ⟨q', hq', -⟩ := kept _ _ hq
    exact .production hq' hn
  | cardResource hq hd holds hn =>
    obtain ⟨q', hq', cards⟩ := kept _ _ hq
    exact .cardResource hq' (Player.played?_of_prefix cards hd) holds hn
  | rating hq hn =>
    obtain ⟨q', hq', -⟩ := kept _ _ hq
    exact .rating hq' hn
  | nextCardEffect hq =>
    obtain ⟨q', hq', -⟩ := kept _ _ hq
    exact .nextCardEffect hq'

theorem reaches (h : o.Gains g) (regular : g.Regular) : ∃ g', g.Reaches [o] g' := by
  cases h with
  | resources hq hn =>
    have held := (regular.sound.players _ _ hq).balances
    exact ⟨_, Game.reaches_changeResources regular hq (Int.add_nonneg (held _) hn)⟩
  | production hq hn =>
    have floor := (regular.stocked.players _ _ hq).production
    exact ⟨_, Game.reaches_changeProduction regular hq
      (Int.le_trans (floor _) (Int.le_add_of_nonneg_right hn))⟩
  | cardResource hq hd holds hn =>
    have held := (regular.sound.players _ _ hq).held_nonneg
    exact Game.reaches_changeCardResource regular hq hd holds (Int.add_nonneg (held _ _) hn)
  | rating hq hn => exact Game.reaches_raiseTerraformRating regular hq hn
  | nextCardEffect hq =>
    exact ⟨_, Game.reaches_run (c := .addNextCardEffect _ _) regular rfl trivial
      (Game.update_eq_ok.2 ⟨_, hq, rfl⟩)⟩

end Operation.Gains

namespace Game

variable {g g' : Game} {os : List Operation}

/-- Gains are accepted one after the other. -/
theorem reaches_gains (regular : g.Regular) (gains : ∀ o ∈ os, o.Gains g) :
    ∃ g', g.Reaches os g' := by
  induction os generalizing g with
  | nil => exact ⟨g, .nil regular⟩
  | cons o os ih =>
    obtain ⟨g₁, first⟩ := (gains o List.mem_cons_self).reaches regular
    obtain ⟨g₂, rest⟩ := ih first.regular fun o' ho' =>
      (gains o' (List.mem_cons_of_mem _ ho')).mono first.keeps
    exact ⟨g₂, first.cons rest⟩

/-! ## Reactions -/

theorem gains_of_gain {p : PlayerId} {q : Player} {a : ActiveEffect} {o : Operation}
    (regular : g.Regular) (hq : g.player? p = some q) (ha : a ∈ q.effects)
    (ho : a.gain p = some o) : o.Gains g := by
  obtain ⟨d, hd, ready⟩ := (regular.stocked.players p q hq).effects a ha
  unfold ActiveEffect.gain at ho
  unfold Effect.ready at ready
  cases ht : a.effect.type with
  | gainCardResourceForOwnImpact | gainCardResourceForAnyImpact =>
    simp only [ht] at ho ready
    cases ho
    simp only [Bool.and_eq_true, decide_eq_true_eq] at ready
    obtain ⟨⟨some, same⟩, hn⟩ := ready
    obtain ⟨kind, holds⟩ := Option.isSome_iff_exists.1 some
    rw [same, holds]
    exact .cardResource hq hd holds hn
  | gainResourceForOwnImpact | gainResourceForAnyImpact =>
    simp only [ht] at ho ready
    cases ho
    simp only [Bool.and_eq_true, decide_eq_true_eq] at ready
    obtain ⟨r, hr⟩ := Option.isSome_iff_exists.1 ready.1
    rw [hr]
    exact .resources hq ready.2
  | gainProductionForOwnImpact | gainProductionForAnyImpact =>
    simp only [ht] at ho ready
    cases ho
    simp only [Bool.and_eq_true, decide_eq_true_eq] at ready
    obtain ⟨r, hr⟩ := Option.isSome_iff_exists.1 ready.1
    rw [hr]
    exact .production hq ready.2
  | _ =>
    simp only [ht] at ho
    cases ho

/-- What effects do when an impact has happened is a gain of their owners. -/
theorem gains_reactionsToImpact (regular : g.Regular) (actor : PlayerId) (i : Impact) :
    ∀ o ∈ g.reactionsToImpact actor i, o.Gains g := by
  intro o ho
  obtain ⟨p, q, a, hq, ha, gain⟩ := mem_reactionsToImpact ho
  exact gains_of_gain regular hq ha gain

/-- What effects do when a card was played is a gain of their owners. -/
theorem gains_reactionsToCard (regular : g.Regular) (actor : PlayerId) (c : Card) :
    ∀ o ∈ g.reactionsToCard actor c, o.Gains g := by
  intro o ho
  obtain ⟨p, q, a, hq, ha, -, reacts⟩ := mem_reactionsToCard ho
  obtain ⟨d, hd, ready⟩ := (regular.stocked.players p q hq).effects a ha
  have tags : (0 : Int) ≤ (c.countTag a.effect.tag : Nat) := Int.natCast_nonneg _
  unfold Effect.ready at ready
  obtain ⟨type, rfl⟩ | ⟨type, rfl⟩ := reacts
  · simp only [type, decide_eq_true_eq] at ready
    exact .resources hq (Int.mul_nonneg ready tags)
  · simp only [type, Bool.and_eq_true, decide_eq_true_eq] at ready
    obtain ⟨r, hr⟩ := Option.isSome_iff_exists.1 ready.1
    rw [hr]
    exact .production hq (Int.mul_nonneg ready.2 tags)

end Game

end Terraforming
