import Terraforming.Proofs.Player.Payment
import Terraforming.Proofs.Turn.Beginnings
import Terraforming.Proofs.Turn.Resolution

/-!
# Turns that come to an end

In a regular game, every turn action of a player who is there answers with an attempt: whatever
passes the checks of the rules passes those of the operations that follow.

* `playCard_answers`, `performAction_answers`, `performProject_answers`,
  `claimMilestoneTurn_answers`, `fundAwardTurn_answers` — one theorem for each kind of action;
* `takeTurn_answers` — hence any action that carries what its type needs.
-/

namespace Terraforming

namespace Game

variable {g : Game} {p : PlayerId} {q : Player} {c : Card} {payment : Pool}

/-! ## Impacts that are ready -/

theorem kindAt_of_played {s : Int} {d : PlayedCard} (hq : g.player? p = some q)
    (hd : q.played? s = some d) : g.kindAt p (some s) = d.card.supportedResource? := by
  simp only [kindAt, Option.bind_some, hq, hd]

/-- What a well-made card in play prints is ready. -/
theorem ready_of_printed {s : Int} {d : PlayedCard} {i : Impact} (hq : g.player? p = some q)
    (hd : q.played? s = some d) (made : d.card.wellMade = true)
    (printed : i.walk ⊆ d.card.allImpacts) : i.Ready g p (some s) := by
  intro j hj
  rw [kindAt_of_played hq hd]
  exact Card.ready_of_mem_allImpacts made (printed hj)

/-! ## Payments -/

theorem reaches_paymentOps (regular : g.Regular) (hq : g.player? p = some q)
    (covers : q.Covers payment) :
    ∃ g' resources, g.Reaches (paymentOps p payment) g' ∧
      g'.player? p = some { q with resources := resources } ∧ g'.deck = g.deck ∧
        g'.discard = g.discard :=
  reaches_payment regular hq ((by decide : Resource.all.Nodup).filter _) fun r _ => covers r

/-- Whether a cost can be paid is always known. -/
theorem paymentFor_answers (regular : g.Regular) (hq : g.player? p = some q) (cost : Cost) :
    ∃ answer, q.paymentFor cost = .ok answer ∧
      ∀ payment, answer = some payment → q.Covers payment :=
  Player.paymentFor_covered (regular.sound.players p q hq) (regular.stocked.players p q hq) cost

/-! ## Playing a card -/

theorem fulfils_eq_ok {r : Requirement} (ready : r.ready = true) (b : Board) :
    ∃ fulfilled, q.fulfils b r = .ok fulfilled := by
  unfold Player.fulfils
  cases ht : r.type with
  | minTags =>
    have counted : r.tag ≠ some .event := by simpa [Requirement.ready, ht] using ready
    rw [Player.tagCount, if_neg counted]
    exact ⟨_, rfl⟩
  | _ => exact ⟨_, rfl⟩

/-- The reasons against playing a card are known when metals are worth something and the card in the
hand can be checked. -/
theorem playRefusal?_eq_ok (bonus : 0 ≤ q.metalBonus)
    (ready : q.holds c = true → ∀ r ∈ c.requirements, r.ready = true) :
    ∃ answer, g.playRefusal? q c = .ok answer := by
  unfold playRefusal?
  cases held : q.holds c with
  | false => exact ⟨some (.cardNotInHand c.name), rfl⟩
  | true =>
    have unfulfilled : ∃ rs, q.unfulfilled g.board c = .ok rs := by
      refine filterM_total fun r hr => ?_
      obtain ⟨fulfilled, hf⟩ := fulfils_eq_ok (q := q) (ready held r hr) g.board
      exact ⟨!fulfilled, by rw [hf]; rfl⟩
    obtain ⟨rs, hrs⟩ := unfulfilled
    obtain ⟨answer, ha⟩ := Player.paymentFor_eq_ok bonus (q.effectiveCost c)
    have known : ∃ reasons, q.unmetRequirements g.board c = .ok reasons := by
      rw [Player.unmetRequirements, hrs, Player.canAfford, ha]
      exact ⟨_, rfl⟩
    obtain ⟨reasons, hr⟩ := known
    simp only [Bool.not_true, Bool.false_eq_true, if_false, hr, ok_bind]
    split <;> exact ⟨_, rfl⟩

/-- No production goes below its floor through a card whose losses can be borne. -/
theorem floor_le_of_bearable (fit : q.Fit) (bearable : unbearableLoss? q c = none) (r : Resource) :
    q.productionFloor (some r) ≤ q.productionOf (some r) + c.ownChange r := by
  have floor := fit.production r
  by_cases loss : c.ownChange r < 0
  · have listed : (r, c.ownChange r) ∈ c.ownProduction.entries :=
      Ledger.mem_entries_of_getD_ne (Int.ne_of_lt loss)
    have able := List.find?_eq_none.1 bearable _ listed
    have able : q.canReduceProduction (some r) (-c.ownChange r) = true := by simpa [loss] using able
    have := of_decide_eq_true able
    omega
  · omega

/-- A card that is held comes into play under the next id. -/
theorem reaches_putCardIntoPlay (regular : g.Regular) (hq : g.player? p = some q)
    (held : q.holds c = true) :
    g.Reaches [.putCardIntoPlay p c q.nextInstance]
      ((g.withPlayer p { q with
        hand := q.hand.erase c
        played := q.played ++ [⟨q.nextInstance, c⟩]
        nextInstance := q.nextInstance + 1 }).note (.putCardIntoPlay p c q.nextInstance)) :=
  reaches_run (c := .putCardIntoPlay p c q.nextInstance) regular rfl trivial
    (putIntoPlay_eq_ok.2 ⟨q, hq, held, Int.le_refl _, rfl⟩)

/-- Effects on the next card are used up, if there are any. -/
theorem reaches_consumption (regular : g.Regular) (hq : g.player? p = some q) (none : Bool) :
    ∃ g' effects, g.Reaches (if none then [] else [.consumeNextCardEffects p]) g' ∧
      g'.player? p = some { q with nextCardEffects := effects } := by
  cases none with
  | true => exact ⟨g, q.nextCardEffects, .nil regular, hq⟩
  | false =>
    exact ⟨_, [], reaches_run (c := .consumeNextCardEffects p) regular rfl trivial
      (update_eq_ok.2 ⟨q, hq, rfl⟩), player?_withPlayer.trans (if_pos rfl)⟩

/-- A card that nothing speaks against enters, and is then in play under the id it was given. -/
theorem reaches_entryOps (regular : g.Regular) (hq : g.player? p = some q)
    (held : q.holds c = true) (bearable : unbearableLoss? q c = none) (covers : q.Covers payment) :
    ∃ g' q', g.Reaches (entryOps p q c payment) g' ∧ g'.player? p = some q' ∧
      q'.played? q.nextInstance = some ⟨q.nextInstance, c⟩ := by
  have fit := regular.stocked.players p q hq
  have made := fit.wellMade_of_holds held
  obtain ⟨g₁, resources, paid, hq₁, -, -⟩ := reaches_paymentOps regular hq covers
  have entered := reaches_putCardIntoPlay paid.regular hq₁ held
  obtain ⟨g₃, next, consumed, hq₃⟩ := reaches_consumption entered.regular
    (player?_withPlayer.trans (if_pos rfl)) q.nextCardEffects.isEmpty
  have inPlay : Player.played? _ q.nextInstance = some ⟨q.nextInstance, c⟩ :=
    Player.played?_of_mem (consumed.regular.sound.players p _ hq₃).distinct
      (List.mem_append_right _ (List.mem_singleton.2 rfl))
  obtain ⟨g₄, effects, active, hq₄⟩ := reaches_addEffects consumed.regular hq₃ inPlay
    fun e he => Card.ready_of_mem_effects made he
  obtain ⟨g₅, produced⟩ := reaches_productions c.ownChange active.regular hq₄
    ((by decide : Resource.all.Nodup).filter fun r => c.ownChange r ≠ 0)
    fun r _ => floor_le_of_bearable fit bearable r
  obtain ⟨q₅, hq₅, cards⟩ := produced.keeps p _ hq₄
  exact ⟨g₅, q₅, (((paid.append entered).append consumed).append active).append produced, hq₅,
    Player.played?_of_prefix cards inPlay⟩

/-- The impacts of a well-made card are ready once it is in play. -/
theorem ready_of_mem_playImpacts {s : Int} {i : Impact} (hq : g.player? p = some q)
    (inPlay : q.played? s = some ⟨s, c⟩) (made : c.wellMade = true) (hi : i ∈ playImpacts c) :
    i.Ready g p (some s) := by
  rcases List.mem_append.1 hi with hi | hi
  · exact ready_of_printed hq inPlay made (Impact.walk_subset_of_mem_impacts hi)
  · obtain ⟨r, -, rfl⟩ := List.mem_map.1 hi
    intro j hj
    rw [List.mem_singleton.1 hj]
    rfl

theorem playCard_answers (regular : g.Regular) (hq : g.player? p = some q) (c : Card)
    (cs : List Choice) : g.Answers p (g.playCard p c cs) := by
  have fit := regular.stocked.players p q hq
  obtain ⟨refusal, hr⟩ := playRefusal?_eq_ok (g := g) (c := c) fit.metalBonus fun held r hr =>
    Card.ready_of_mem_requirements (fit.wellMade_of_holds held) hr
  simp only [playCard, player_eq_ok.2 hq, ok_bind, hr]
  cases refusal with
  | some r => exact answers_unplayable r
  | none =>
    obtain ⟨held, -, bearable⟩ := playRefusal?_eq_none hr
    obtain ⟨answer, ha, covers⟩ := paymentFor_answers regular hq (q.effectiveCost c)
    simp only [ha, ok_bind]
    cases answer with
    | none => exact answers_unplayable _
    | some payment =>
      obtain ⟨g₁, q₁, entered, hq₁, inPlay⟩ :=
        reaches_entryOps regular hq held bearable (covers payment rfl)
      obtain ⟨g₂, reacted⟩ :=
        reaches_gains entered.regular (gains_reactionsToCard entered.regular p c)
      obtain ⟨q₂, hq₂, cards⟩ := reacted.keeps p q₁ hq₁
      have made := fit.wellMade_of_holds held
      have kept := entered.keeps.trans reacted.keeps
      simp only [Progress.emit_of_reaches entered, Progress.emit_of_reaches reacted, ok_bind]
      refine Impact.resolve_answers ⟨reacted.regular, kept⟩ hq fun i hi => ?_
      exact ready_of_mem_playImpacts hq₂ (Player.played?_of_prefix cards inPlay) made hi

/-! ## Using a card action -/

theorem payAndResolve_answers {s : Int} {ops : List Operation} {impacts : List Impact}
    {started : Progress} (follows : started.Follows g) (hq : g.player? p = some q)
    (admits : started.game.Admits ops)
    (ready : ∀ i ∈ impacts, i.Ready started.game p (some s)) (cs : List Choice) :
    g.Answers p (payAndResolve p s ops impacts cs started) := by
  obtain ⟨paid, hp, follows'⟩ := Progress.emit_of_admits admits
  rw [payAndResolve, hp]
  exact Impact.resolve_answers (follows'.trans follows) hq fun i hi =>
    (ready i hi).mono follows'.kept

/-- The card that was just drawn can be shown and laid down. -/
theorem reaches_discardCards (regular : g.Regular) (hq : g.player? p = some q) (hc : c ∈ q.hand) :
    ∃ g', g.Reaches [.discardCards p [c]] g' := by
  have held : q.holds c = true :=
    List.contains_iff_exists_mem_beq.2 ⟨c, hc, Card.beq_self c⟩
  have gone : discardAll p [c] q g = .accepted ({ g with discard := g.discard ++ [c] }.withPlayer p
      { q with hand := q.hand.erase c }) := by
    rw [discardAll, if_pos held, discardAll]
  exact ⟨_, reaches_run (c := .discardCards p [c]) regular rfl trivial
    (discard_eq_ok.2 ⟨q, hq, gone⟩)⟩

theorem revealCard_answers {s : Int} {a : Action} {started : Progress} {q₀ : Player}
    (follows : started.Follows g) (hq₀ : g.player? p = some q₀)
    (hq : started.game.player? p = some q) (covers : q.Covers payment)
    (tag : a.tag.isSome = true) (ready : ∀ i ∈ a.impacts, i.Ready started.game p (some s))
    (cs : List Choice) : g.Answers p (revealCard p s payment a cs started) := by
  obtain ⟨tag, ht⟩ := Option.isSome_iff_exists.1 tag
  obtain ⟨start, before⟩ := started
  unfold revealCard
  split
  · exact answers_unplayable _
  next some =>
    have few : (1 : Int) ≤ start.deck.length + start.discard.length := by
      simp only [Bool.and_eq_true, List.isEmpty_iff_length_eq_zero] at some
      omega
    obtain ⟨g₁, resources, paid, hq₁, deck, discard⟩ :=
      reaches_paymentOps follows.regular hq covers
    obtain ⟨g₂, q₂, drew, hq₂, drawn, one, hand⟩ :=
      reaches_drawCards paid.regular hq₁ (n := 1) (by decide) (by rw [deck, discard]; exact few)
    obtain ⟨card, rfl⟩ := List.length_eq_one_iff.1 one
    have last : q₂.hand.getLast? = Option.some card := by rw [hand, List.getLast?_concat]
    obtain ⟨g₃, laid⟩ := reaches_discardCards drew.regular hq₂ (List.mem_of_getLast? last)
    have shown : start.Reaches _ g₃ := (paid.append drew).append laid
    have onward : Progress.Follows ⟨g₃, before ++ (paymentOps p payment ++ [.drawCards p 1]) ++
        [.discardCards p [card]]⟩ g := ⟨shown.regular, follows.kept.trans shown.keeps⟩
    simp only [Progress.emit_of_reaches (paid.append drew), Progress.emit_of_reaches laid, ok_bind,
      player_eq_ok.2 hq₂, last, ht]
    split
    · exact Impact.resolve_answers onward hq₀ fun i hi => (ready i hi).mono shown.keeps
    · exact onward.answers

/-- An action of a well-made card in play that was just marked as used. -/
theorem useAction_answers {s : Int} {d : PlayedCard} {a : Action} {started : Progress}
    {q₀ : Player} (follows : started.Follows g) (hq₀ : g.player? p = some q₀)
    (hq : started.game.player? p = some q) (hd : q.played? s = some d) (ha : a ∈ d.card.actions)
    (cs : List Choice) : g.Answers p (useAction p d s a cs started) := by
  have regular := follows.regular
  have made := (regular.stocked.players p q hq).played d (Player.mem_of_played? hd).1
  have ready := Card.ready_of_mem_actions made ha
  have impacts : ∀ i ∈ a.impacts, i.Ready started.game p (some s) := fun i hi =>
    ready_of_printed hq hd made (Impact.walk_subset_of_mem_actions ha hi)
  unfold Action.ready at ready
  simp only [useAction, player_eq_ok.2 hq, ok_bind]
  cases ht : a.type with
  | causeFreeImpact => exact payAndResolve_answers follows hq₀ ⟨_, .nil regular⟩ impacts cs
  | spendResource =>
    simp only [ht] at ready
    obtain ⟨cost, hc⟩ := Option.isSome_iff_exists.1 ready
    obtain ⟨answer, hp, covers⟩ := paymentFor_answers regular hq cost
    simp only [hc, Impact.need, ok_bind, hp]
    cases answer with
    | none => exact answers_unplayable _
    | some payment =>
      obtain ⟨g', resources, paid, -⟩ := reaches_paymentOps regular hq (covers payment rfl)
      exact payAndResolve_answers follows hq₀ ⟨g', paid⟩ impacts cs
  | spendSameCardResource =>
    simp only [ht, Bool.and_eq_true, decide_eq_true_eq] at ready
    obtain ⟨some, same⟩ := ready
    obtain ⟨kind, holds⟩ := Option.isSome_iff_exists.1 some
    rw [(Player.mem_of_played? hd).2, same, holds]
    dsimp only
    split
    · exact answers_unplayable _
    next enough =>
      refine payAndResolve_answers follows hq₀ ?_ impacts cs
      exact reaches_changeCardResource regular hq hd holds (by omega)
  | spendProduction =>
    simp only [ht] at ready
    obtain ⟨r, hr⟩ := Option.isSome_iff_exists.1 ready
    rw [hr]
    cases able : q.canReduceProduction (some r) a.count with
    | false => exact answers_unplayable _
    | true =>
      refine payAndResolve_answers follows hq₀ ?_ impacts cs
      exact ⟨_, reaches_changeProduction regular hq (of_decide_eq_true able)⟩
  | revealCardForTag =>
    simp only [ht, Bool.and_eq_true] at ready
    obtain ⟨cost, hc⟩ := Option.isSome_iff_exists.1 ready.1
    obtain ⟨answer, hp, covers⟩ := paymentFor_answers regular hq cost
    simp only [hc, Impact.need, ok_bind, hp]
    cases answer with
    | none => exact answers_unplayable _
    | some payment =>
      exact revealCard_answers follows hq₀ hq (covers payment rfl) ready.2 impacts cs

theorem performAction_answers (regular : g.Regular) (hq : g.player? p = some q)
    (instanceId : Option Int) (n : Int) (cs : List Choice) :
    g.Answers p (g.performAction p instanceId n cs) := by
  simp only [performAction, player_eq_ok.2 hq, ok_bind]
  split
  · exact answers_unplayable _
  next s d found =>
    obtain ⟨s', -, hd⟩ := Option.bind_eq_some_iff.1 found
    obtain ⟨d', hd, ⟨⟩⟩ := Option.map_eq_some_iff.1 hd
    split
    · exact answers_unplayable _
    next some =>
      split
      · exact answers_unplayable _
      next untapped =>
        cases ha : actionAt? d.card n with
        | none => exact answers_unplayable _
        | some a =>
          have marked := reaches_run (o := .markCardActionUsed p s)
            (c := .markCardActionUsed p s) regular rfl trivial
            (markCardActionUsed_eq_ok.2 ⟨q, d, hq, hd, by simpa using some,
              by simpa using untapped, rfl⟩)
          simp only [Progress.emit_of_reaches marked, ok_bind]
          exact useAction_answers (q := { q with tapped := q.tapped.add s })
            ⟨marked.regular, marked.keeps⟩ hq (player?_withPlayer.trans (if_pos rfl)) hd
            (mem_actions_of_actionAt? ha) cs

/-! ## Standard projects -/

/-- The impacts of the standard projects have what their types need. -/
theorem ready_of_mem_project {project : StandardProject} {i j : Impact}
    (hi : i ∈ project.impacts) (hj : j ∈ i.walk) : j.ready none = true := by
  have all : ∀ i ∈ project.impacts, ∀ j ∈ i.walk, j.ready none = true := by
    cases project <;> decide
  exact all i hi j hj

theorem performProject_answers (regular : g.Regular) (hq : g.player? p = some q)
    (project : StandardProject) (cs : List Choice) :
    g.Answers p (g.performProject p project cs) := by
  unfold performProject
  cases g.projectRefusal? project with
  | some r => exact answers_unplayable r
  | none =>
    obtain ⟨answer, ha, covers⟩ := paymentFor_answers regular hq project.cost
    simp only [player_eq_ok.2 hq, ok_bind, ha]
    cases answer with
    | none => exact answers_unplayable _
    | some payment =>
      obtain ⟨g', resources, paid, -⟩ := reaches_paymentOps regular hq (covers payment rfl)
      simp only [Progress.emit_of_reaches paid, ok_bind]
      exact Impact.resolve_answers ⟨paid.regular, paid.keeps⟩ hq fun i hi _ hj =>
        ready_of_mem_project hi hj

/-! ## Milestones and awards -/

/-- A turn that is spending and one operation more answers, if these are accepted. -/
theorem completeWith_answers (regular : g.Regular) {r : Option Resource} {n : Int} {o : Operation}
    (proper : ∀ h c, o.command? = .ok c → c.Proper h)
    (accepted : g.executeAll [.changeResources p r n, o] = .accepted g') :
    g.Answers p (g.completeWith [.changeResources p r n, o]) := by
  have spending : ∀ h c, (Operation.changeResources p r n).command? = .ok c → c.Proper h := by
    intro h c hc
    cases r <;> cases hc
    trivial
  have done := regular.reaches (List.forall_mem_cons.2 ⟨spending, List.forall_mem_singleton.2 proper⟩)
    accepted
  simp only [completeWith, Progress.emit_of_reaches done, ok_bind]
  exact ⟨_, rfl, done.regular, done.keeps⟩

/-- Whoever has the megacredits can spend them. -/
theorem execute_spending (hq : g.player? p = some q) {cost : Int}
    (enough : ¬q.balance (some .megacredits) < cost) :
    ∃ g', g.execute (.changeResources p (some .megacredits) (-cost)) = .accepted g' ∧
      (∃ q', g'.player? p = some q') ∧ g'.claimed = g.claimed ∧ g'.funded = g.funded :=
  ⟨_, execute_eq_accepted.2 ⟨.changeResources p .megacredits (-cost), _, rfl,
    changeResources_eq_ok.2 ⟨q, hq, by omega, rfl⟩, rfl⟩,
    ⟨_, player?_withPlayer.trans (if_pos rfl)⟩, rfl, rfl⟩

/-- A milestone that nothing speaks against can be claimed. -/
theorem milestoneRefusal?_eq_none {name : Option String}
    (h : g.milestoneRefusal? q name = none) :
    ∃ n, name = some n ∧ (Vocabulary.ofWord? (α := Milestone) n).isSome = true ∧
      g.claimed.contains n = false ∧ g.claimed.size < Milestone.limit ∧
        ¬q.balance (some .megacredits) < Milestone.cost := by
  unfold milestoneRefusal? at h
  split at h
  · cases h
  next n =>
    split at h
    · cases h
    next m hm =>
      split at h
      · cases h
      next free =>
        split at h
        · cases h
        next few =>
          split at h
          · cases h
          · split at h
            · cases h
            next enough =>
              exact ⟨n, rfl, Option.isSome_iff_exists.2 ⟨m, hm⟩, by simpa using free,
                Nat.lt_of_not_le few, enough⟩

theorem executeAll_claimMilestone (hq : g.player? p = some q) {name : Option String}
    (h : g.milestoneRefusal? q name = none) :
    ∃ g', g.executeAll [.changeResources p (some .megacredits) (-Milestone.cost),
      .claimMilestone p (name.getD "")] = .accepted g' := by
  obtain ⟨n, rfl, known, free, few, enough⟩ := milestoneRefusal?_eq_none h
  obtain ⟨g', spent, there, claimed, -⟩ := execute_spending hq enough
  rw [← claimed] at free few
  have taken := execute_eq_accepted (o := .claimMilestone p n).2 ⟨.claimMilestone p n, _, rfl,
    claimMilestone_eq_ok.2 ⟨there, known, free, few, rfl⟩, rfl⟩
  exact ⟨_, executeAll_cons_eq_accepted.2 ⟨g', spent, executeAll_singleton taken⟩⟩

theorem claimMilestoneTurn_answers (regular : g.Regular) (hq : g.player? p = some q)
    (name : Option String) : g.Answers p (g.claimMilestoneTurn p name) := by
  simp only [claimMilestoneTurn, player_eq_ok.2 hq, ok_bind]
  cases hr : g.milestoneRefusal? q name with
  | some r => exact answers_unplayable r
  | none =>
    obtain ⟨g', accepted⟩ := executeAll_claimMilestone hq hr
    refine completeWith_answers regular (fun h c hc => ?_) accepted
    cases hc
    trivial

/-- An award that nothing speaks against can be funded. -/
theorem awardRefusal?_eq_none {name : Option String} (h : g.awardRefusal? q name = none) :
    ∃ n cost, name = some n ∧ (Vocabulary.ofWord? (α := Award) n).isSome = true ∧
      g.funded.contains n = false ∧ Award.costs[g.funded.size]? = some cost ∧
        ¬q.balance (some .megacredits) < cost := by
  unfold awardRefusal? at h
  split at h
  · cases h
  next n =>
    split at h
    · cases h
    next known =>
      split at h
      · cases h
      next free =>
        split at h
        · cases h
        next cost hc =>
          split at h
          · cases h
          next enough =>
            exact ⟨n, cost, rfl, by simpa [Option.isSome_iff_ne_none] using known,
              by simpa using free, hc, enough⟩

theorem executeAll_fundAward (hq : g.player? p = some q) {name : Option String}
    (h : g.awardRefusal? q name = none) :
    ∃ g', g.executeAll [.changeResources p (some .megacredits) (-(Award.costs.getD g.funded.size 0)),
      .fundAward p (name.getD "")] = .accepted g' := by
  obtain ⟨n, cost, rfl, known, free, hc, enough⟩ := awardRefusal?_eq_none h
  obtain ⟨few, -⟩ := List.getElem?_eq_some_iff.1 hc
  obtain ⟨g', spent, there, -, funded⟩ := execute_spending hq enough
  rw [← funded] at free few
  have taken := execute_eq_accepted (o := .fundAward p n).2 ⟨.fundAward p n, _, rfl,
    fundAward_eq_ok.2 ⟨there, known, free, few, rfl⟩, rfl⟩
  rw [List.getD_eq_getElem?_getD, hc]
  exact ⟨_, executeAll_cons_eq_accepted.2 ⟨g', spent, executeAll_singleton taken⟩⟩

theorem fundAwardTurn_answers (regular : g.Regular) (hq : g.player? p = some q)
    (name : Option String) : g.Answers p (g.fundAwardTurn p name) := by
  simp only [fundAwardTurn, player_eq_ok.2 hq, ok_bind]
  cases hr : g.awardRefusal? q name with
  | some r => exact answers_unplayable r
  | none =>
    obtain ⟨g', accepted⟩ := executeAll_fundAward hq hr
    refine completeWith_answers regular (fun h c hc => ?_) accepted
    cases hc
    trivial

/-! ## Any turn action -/

end Game

/-- The action carries what its type needs. -/
def TurnAction.Carries (a : TurnAction) : Prop :=
  match a.type with
  | .playCard => a.card.isSome = true
  | .performAction => a.instanceId.isSome = true
  | .standardProject => a.project.isSome = true
  | .claimMilestone | .fundAward => a.name.isSome = true
  | .pass => True

/-- In a regular game every action that carries what its type needs answers with an attempt. -/
theorem Game.takeTurn_answers {g : Game} {p : PlayerId} {q : Player} {a : TurnAction}
    (regular : g.Regular) (hq : g.player? p = some q) (carries : a.Carries) (cs : List Choice) :
    g.Answers p (g.takeTurn p a cs) := by
  unfold TurnAction.Carries at carries
  unfold takeTurn
  cases ht : a.type with
  | playCard =>
    simp only [ht] at carries
    obtain ⟨c, hc⟩ := Option.isSome_iff_exists.1 carries
    simp only [hc]
    exact playCard_answers regular hq c cs
  | performAction => exact performAction_answers regular hq a.instanceId a.index cs
  | standardProject =>
    simp only [ht] at carries
    obtain ⟨project, hp⟩ := Option.isSome_iff_exists.1 carries
    simp only [hp]
    exact performProject_answers regular hq project cs
  | claimMilestone => exact claimMilestoneTurn_answers regular hq a.name
  | fundAward => exact fundAwardTurn_answers regular hq a.name
  | pass => exact ⟨_, rfl, regular, .refl g⟩

end Terraforming
