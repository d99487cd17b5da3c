import Terraforming.Proofs.Turn.Decisions
import Terraforming.Proofs.Turn.Ratings
import Terraforming.Proofs.Turn.Session

/-!
# Production in play

From any game whose players owe nothing and are at the production floors or above, play goes on by
turns with built-in cards, attempts that are taken up again, purchases and ends of generations, of any
players and in any order.  If no bonus of the board lowers a rating, all productions stay at the floors
or above, and a generation can always end.  The board may have any layout, and players anything in
hand or in play.

* `Game.Course` — the games that such play leads to;
* `Game.Course.secure` — the invariant;
* `Game.Course.produces` — hence the end of a generation, and what everybody has of it.
-/

namespace Terraforming

variable {g g' : Game} {p : PlayerId} {q : Player} {a : Attempt} {cs : List Choice} {i : Impact}

/-! ## What is printed -/

/-- An impact that has what its type needs takes nothing from a rating. -/
theorem Impact.sparesRating_of_ready {kind : Option CardResource} (ready : i.ready kind = true) :
    i.SparesRating := by
  unfold Impact.ready at ready
  refine ⟨fun type => ?_, fun type => ?_⟩
  · simp only [type, decide_eq_true_eq] at ready
    exact ready
  · simp only [type, countable, Bool.and_eq_true, decide_eq_true_eq] at ready
    exact ⟨ready.1, Int.le_of_lt ready.2.2⟩

theorem Card.lenient_of_printed {c : Card} (made : c.wellMade = true)
    (printed : i.walk ⊆ c.allImpacts) : i.Lenient :=
  fun _ hj => Impact.sparesRating_of_ready (ready_of_mem_allImpacts made (printed hj))

theorem Card.lenient_of_mem_playImpacts {c : Card} (made : c.wellMade = true)
    (hi : i ∈ Game.playImpacts c) : i.Lenient := by
  rcases List.mem_append.1 hi with hi | hi
  · exact lenient_of_printed made (Impact.walk_subset_of_mem_impacts hi)
  · obtain ⟨r, -, rfl⟩ := List.mem_map.1 hi
    intro j hj
    rw [List.mem_singleton.1 hj]
    exact ⟨nofun, nofun⟩

theorem StandardProject.lenient_of_mem_impacts {project : StandardProject}
    (hi : i ∈ project.impacts) : i.Lenient :=
  fun _ hj => Impact.sparesRating_of_ready (Game.ready_of_mem_project hi hj)

theorem Board.lenient_of_layout {b : Board} (layout : b.spaces = standard.spaces) : b.Lenient := by
  intro l space hs i hi
  rw [layout] at hs
  have plain := standard_bonuses (l, space) (Table.get?_eq_some_iff.1 hs) i hi
  refine ⟨fun type => ?_, fun type => ?_⟩ <;> simp [Impact.isPlainGain, type] at plain

/-! ## Play -/

/-- If the action plays a card or uses one, it is a built-in card. -/
structure TurnAction.UsesBuiltIn (action : TurnAction) (g : Game) (p : PlayerId) : Prop where
  played : action.type = .playCard → ∀ c, action.card = some c → c.BuiltIn
  used : action.type = .performAction → ∀ q n d, g.player? p = some q →
    action.instanceId = some n → q.played? n = some d → d.card.BuiltIn

/-- What is left open takes nothing from a rating. -/
def OpenAttempt.Lenient (o : OpenAttempt) : Prop := ∀ i ∈ o.remaining, i.Lenient

theorem Attempt.Secure.leaves (secure : a.Secure) (hg : a.game? = some g') :
    g'.Secure ∧ ∀ o ∈ a.leftOpen p, o.Lenient := by
  cases a with
  | unplayable r => cases hg
  | waiting ops remaining pending source g₁ =>
    cases hg
    exact ⟨secure.1, fun o ho => List.mem_singleton.1 ho ▸ secure.2⟩
  | complete ops g₁ =>
    cases hg
    exact ⟨secure, List.forall_mem_nil _⟩

namespace Game

/-- What a turn with built-in cards resolves is lenient. -/
theorem Prints.lenient {action : TurnAction} (prints : g.Prints p action i)
    (builtIn : action.UsesBuiltIn g p) : i.Lenient := by
  cases prints with
  | played type card hi =>
    exact Card.lenient_of_mem_playImpacts (builtIn.played type _ card).wellMade hi
  | inPlay type printed =>
    obtain ⟨q, n, d, hq, hn, hd, action', ha, hi⟩ := printed
    have made := (builtIn.used type q n d hq hn hd).wellMade
    exact Card.lenient_of_printed made (Impact.walk_subset_of_mem_actions ha hi)
  | project _ hi => exact StandardProject.lenient_of_mem_impacts hi

/-- The games that play with built-in cards leads to from `g₀`, each with the attempts left open on
the way. -/
inductive Course (g₀ : Game) : Game → List OpenAttempt → Prop
  | start : Course g₀ g₀ []
  | turn {g g' : Game} {os : List OpenAttempt} {p : PlayerId} {action : TurnAction}
      {cs : List Choice} {a : Attempt} : Course g₀ g os → action.UsesBuiltIn g p →
      g.takeTurn p action cs = .ok a → a.game? = some g' → Course g₀ g' (os ++ a.leftOpen p)
  | resumption {g g' : Game} {os : List OpenAttempt} {o : OpenAttempt} {cs : List Choice}
      {a : Attempt} : Course g₀ g os → o ∈ os → o.resume g cs = .ok a →
      a.game? = some g' → Course g₀ g' (os ++ a.leftOpen o.player)
  | purchase {g g' : Game} {os : List OpenAttempt} {p : PlayerId} {cards : List Card} :
      Course g₀ g os → g.purchase p cards = .ok (some g') → Course g₀ g' os
  | generationEnd {g g' : Game} {os : List OpenAttempt} : Course g₀ g os →
      g.advance = .accepted g' → Course g₀ g' os

/-! ## The invariant -/

theorem sparing_generationEnd (g : Game) : Operation.Sparing g.generationEnd :=
  g.forall_generationEnd (fun _ => rfl) rfl rfl

variable {g₀ : Game} {os : List OpenAttempt}

/-- Play keeps the game secure, and what was left open is lenient. -/
theorem Course.secure (secure : g₀.Secure) (course : Course g₀ g os) :
    g.Secure ∧ ∀ o ∈ os, o.Lenient := by
  induction course with
  | start => exact ⟨secure, List.forall_mem_nil _⟩
  | turn course builtIn taken hg ih =>
    have attempt := (takeTurn_begins taken).secure ih.1 fun i prints => prints.lenient builtIn
    obtain ⟨secure, left⟩ := attempt.leaves hg
    exact ⟨secure, List.forall_mem_append.2 ⟨ih.2, left⟩⟩
  | resumption course mem resumed hg ih =>
    have attempt := Impact.resolve_secure ih.1 (ih.2 _ mem) resumed
    obtain ⟨secure, left⟩ := attempt.leaves hg
    exact ⟨secure, List.forall_mem_append.2 ⟨ih.2, left⟩⟩
  | purchase course bought ih => exact ⟨ih.1.execute rfl (purchase_eq_some bought), ih.2⟩
  | generationEnd course ended ih =>
    exact ⟨ih.1.executeAll (sparing_generationEnd _) ended, ih.2⟩

/-! ## The end of a generation -/

end Game

/-- What a player has of a generation that ends: the energy that is left becomes heat, and the rating
is paid out. -/
structure Player.Earns (q q' : Player) : Prop where
  covered : q'.Covered
  energy : q'.balance (some .energy) = q.productionOf (some .energy)
  heat : q'.balance (some .heat) =
    q.balance (some .heat) + q.balance (some .energy) + q.productionOf (some .heat)
  megacredits : q'.balance (some .megacredits) =
    q.balance (some .megacredits) + q.rating + q.productionOf (some .megacredits)
  steel : q'.balance (some .steel) = q.balance (some .steel) + q.productionOf (some .steel)
  titanium :
    q'.balance (some .titanium) = q.balance (some .titanium) + q.productionOf (some .titanium)
  plants : q'.balance (some .plants) = q.balance (some .plants) + q.productionOf (some .plants)

theorem Player.earns_produced (can : q.CanProduce) : q.Earns q.produced := by
  have after : ∀ r, q.produced.balance (some r) = q.balanceAfterProduction r :=
    fun r => Pool.amount_ofList _ r
  have energy : q.balanceAfterProduction .energy = q.productionOf (some .energy) := Int.zero_add _
  exact ⟨fun r => after r ▸ can r, (after .energy).trans energy, after .heat, after .megacredits,
    after .steel, after .titanium, after .plants⟩

namespace Game

/-- In a secure game a generation can end. -/
theorem Secure.ends (secure : g.Secure) : ∃ g', g.advance = .accepted g' ∧ g.Ends g' :=
  advance_of_can fun p q hq => Player.canProduce (secure.covered p q hq) (secure.floored p q hq)

/-- **The production phase does not fail** where no bonus of the board lowers a rating.  Wherever
play with built-in cards leads to, no production is below its floor, and the generation can end: then
the same players are there, and each has earned what is due. -/
theorem Course.produces (floored : g₀.Floored) (covered : g₀.Covered) (lenient : g₀.board.Lenient)
    (course : Course g₀ g os) :
    g.Floored ∧ ∃ g', g.advance = .accepted g' ∧
      ∀ p, Option.Rel Player.Earns (g.player? p) (g'.player? p) := by
  obtain ⟨secure, -⟩ := course.secure ⟨floored, covered, lenient⟩
  obtain ⟨g', accepted, ends⟩ := secure.ends
  refine ⟨secure.floored, g', accepted, fun p => ?_⟩
  rw [ends.players p]
  cases hq : g.player? p with
  | none => exact .none
  | some q => exact .some (Player.earns_produced (ends.can p q hq))

theorem outpost_floored : outpost.Floored :=
  fun p q hq => (outpost_opening.players p q hq).production

theorem outpost_covered : outpost.Covered :=
  fun p q hq => (outpost_opening.regular.sound.players p q hq).balances

/-- In `outpost` a card is bought and played, its options are left open and taken up, and a generation
ends; then the next can end. -/
theorem Course.produces_outpost :
    outpost.Floored ∧ outpost.Covered ∧ outpost.board.Lenient ∧
      ∃ g os q, Course outpost g os ∧ os ≠ [] ∧ g.player? 1 = some q ∧ g.Floored ∧
        ∃ g', g.advance = .accepted g' ∧ Option.Rel Player.Earns (some q) (g'.player? 1) := by
  have plays : ((builtInCards ["Virus"]).head?.bind fun c =>
      (outpost.purchase 1 [c]).toOption.join.bind fun g₁ =>
        (g₁.takeTurn 1 (.playCard c) []).toOption.bind fun a => a.game?.bind fun g₂ =>
          (a.leftOpen 1).head?.bind fun o =>
            (o.resume g₂ [.ofOption 1]).toOption.bind fun b => b.game?.bind fun g₃ =>
              g₃.advance.toExcept.toOption.bind fun g₄ => (g₄.player? 1).map fun q =>
                (c, g₁, a, g₂, o, b, g₃, g₄, q)).isSome = true := by
    decide +kernel
  obtain ⟨_, h⟩ := Option.isSome_iff_exists.1 plays
  obtain ⟨c, hc, h⟩ := Option.bind_eq_some_iff.1 h
  obtain ⟨g₁, bought, h⟩ := Option.bind_eq_some_iff.1 h
  obtain ⟨a, ha, h⟩ := Option.bind_eq_some_iff.1 h
  obtain ⟨g₂, hg₂, h⟩ := Option.bind_eq_some_iff.1 h
  obtain ⟨o, ho, h⟩ := Option.bind_eq_some_iff.1 h
  obtain ⟨b, hb, h⟩ := Option.bind_eq_some_iff.1 h
  obtain ⟨g₃, hg₃, h⟩ := Option.bind_eq_some_iff.1 h
  obtain ⟨g₄, hg₄, h⟩ := Option.bind_eq_some_iff.1 h
  obtain ⟨q, hq, -⟩ := Option.map_eq_some_iff.1 h
  have builtIn : (TurnAction.playCard c).UsesBuiltIn g₁ 1 := by
    refine ⟨fun _ d hd => ?_, nofun⟩
    rw [← Option.some.inj hd]
    exact builtIn_of_mem (List.mem_of_mem_head? hc)
  have left : o ∈ [] ++ a.leftOpen 1 := List.mem_of_mem_head? ho
  have course : Course outpost g₄ (([] ++ a.leftOpen 1) ++ b.leftOpen o.player) :=
    .generationEnd (.resumption (.turn (.purchase .start (toOption_eq_some.1 (Option.join_eq_some_iff.1 bought))) builtIn
      (toOption_eq_some.1 ha) hg₂) left (toOption_eq_some.1 hb) hg₃)
        (toExcept_eq_ok.1 (toOption_eq_some.1 hg₄))
  have lenient := Board.lenient_of_layout (b := outpost.board) rfl
  obtain ⟨floored, g', accepted, earned⟩ := course.produces outpost_floored outpost_covered lenient
  refine ⟨outpost_floored, outpost_covered, lenient, g₄, _, q, course, ?_, hq, floored, g', accepted,
    hq ▸ earned 1⟩
  exact List.ne_nil_of_mem (List.mem_append_left _ left)

/-- A game on a board of a single space, where whoever places an ocean loses more than their
rating. -/
def sinkhole : Game where
  board := ({ spaces := [{
    location := .onMars ⟨0, 0⟩
    designations := KeySet.ofList [.reservedForOcean]
    bonuses := [.raiseTerraformRating (-25)] }] } : Board.Contents).board
  players := Table.ofList [(1, { id := 1, resources := Table.ofList [(.megacredits, 18)] })]

/-- In `sinkhole` an ocean is placed, and the generation cannot end. -/
theorem sinkhole_stranded :
    sinkhole.Floored ∧ sinkhole.Covered ∧ ∃ g os, Course sinkhole g os ∧ ¬g.Floored ∧
      g.advance.toExcept.toOption = none := by
  refine ⟨fun p q hq r => ?_, fun p q hq r => ?_, ?_⟩
  · obtain ⟨-, rfl⟩ := Table.get?_ofList_singleton.1 hq
    cases r <;> decide
  · obtain ⟨-, rfl⟩ := Table.get?_ofList_singleton.1 hq
    cases r <;> decide
  · obtain ⟨ops, g, taken, low, stuck⟩ : ∃ ops g,
        sinkhole.takeTurn 1 (.standardProject .aquifer) [.at_ (.onMars ⟨0, 0⟩)] =
          .ok (.complete ops g) ∧
        ((g.player? 1).any fun q =>
          q.productionOf (some .megacredits) < q.productionFloor (some .megacredits)) = true ∧
        g.advance.toExcept.toOption.isNone = true := by
      refine ⟨_, _, Impact.resolve_settled (i := .placeOcean) rfl rfl rfl
        (Impact.settleBonuses_performed (i := .raiseTerraformRating (-25)) rfl rfl rfl) rfl, ?_⟩
      decide +kernel
    obtain ⟨q, hq, low⟩ := (Option.any_eq_true _ _).1 low
    have builtIn : (TurnAction.standardProject .aquifer).UsesBuiltIn sinkhole 1 := ⟨nofun, nofun⟩
    refine ⟨g, _, .turn .start builtIn taken rfl, fun floored => ?_, Option.isNone_iff_eq_none.1 stuck⟩
    exact Int.not_le.2 (of_decide_eq_true low) (floored 1 q hq .megacredits)

end Game

end Terraforming
