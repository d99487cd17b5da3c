import Terraforming.Proofs.Data.Enumeration
import Terraforming.Proofs.Game.Passives
import Terraforming.Proofs.Turn.Blocks

/-!
# Who gains from an impact

An impact that was carried out is answered once by every active effect that waits for it, whoever owns
it: player by player, effect by effect, each with a gain of its own.  Which effects there are does not
change while impacts are resolved, so the answers can be read off the game at the beginning.

* `Game.answering` — the effects that answer an impact;
* `Game.gains_of_answering` — the gains are one for each of them;
* `Impact.gains_answered` — a resolution, block by block.
-/

namespace Terraforming

/-! ## The effects that answer -/

/-- The effect is a gain that waits for impacts, one of its triggers is met, and the impact is the
owner's if it has to be. -/
def ActiveEffect.answers (actor : PlayerId) (i : Impact) (owner : PlayerId) (a : ActiveEffect) :
    Bool :=
  a.effect.type.answersImpact && a.effect.triggers.any i.fits &&
    (!a.effect.type.answersOwnImpact || owner = actor)

/-- The effects that answer an impact of `actor`, with their owners: by player, and then in the order in
which they came into play. -/
def Game.answering (g : Game) (actor : PlayerId) (i : Impact) : List (PlayerId × ActiveEffect) :=
  g.passives.entries.flatMap fun e => (e.2.filter (·.answers actor i e.1)).map (e.1, ·)

namespace ActiveEffect

variable {actor owner : PlayerId} {i : Impact} {a : ActiveEffect} {o : Operation}

/-- A gain is what an effect that waits for impacts gives. -/
theorem isSome_gain (owner : PlayerId) (a : ActiveEffect) :
    (a.gain owner).isSome = a.effect.type.answersImpact := by
  simp only [gain]
  cases a.effect.type <;> rfl

theorem onImpact_eq (actor : PlayerId) (i : Impact) (owner : PlayerId) (a : ActiveEffect) :
    a.onImpact actor i owner = if a.answers actor i owner then a.gain owner else none := by
  have gains := isSome_gain owner a
  unfold onImpact answers
  cases type : a.effect.type.answersImpact with
  | false =>
    rw [type, Option.isSome_eq_false_iff, Option.isNone_iff_eq_none] at gains
    simp [gains]
  | true =>
    cases own : a.effect.type.answersOwnImpact with
    | false => simp
    | true => by_cases here : owner = actor <;> simp [here]

/-- What answers an impact has a trigger of its type. -/
theorem type_of_answers (h : a.answers actor i owner = true) :
    ∃ t ∈ a.effect.triggers, t.type = i.type := by
  unfold answers at h
  simp only [Bool.and_eq_true] at h
  obtain ⟨t, ht, fits⟩ := List.any_eq_true.1 h.1.2
  unfold Impact.fits at fits
  simp only [Bool.and_eq_true, decide_eq_true_eq] at fits
  exact ⟨t, ht, fits.1.1.1.1.1.1.symm⟩

/-- A gain brings no effect. -/
theorem addsPassive_gain (h : a.gain owner = some o) : o.addsPassive = false := by
  simp only [gain] at h
  split at h <;> cases h <;> rfl

end ActiveEffect

namespace Game

variable {g g' : Game} {actor : PlayerId} {i : Impact}

/-- One effect after the other gives its gain. -/
theorem forall₂_gains (owner : PlayerId) (es : List ActiveEffect) :
    List.Forall₂ (fun e o => e.2.gain e.1 = some o)
      ((es.filter (·.answers actor i owner)).map (owner, ·))
      (es.filterMap (ActiveEffect.onImpact actor i owner)) := by
  induction es with
  | nil => exact .nil
  | cons a es ih =>
    have reacts := a.onImpact_eq actor i owner
    cases answers : a.answers actor i owner with
    | false =>
      rw [answers] at reacts
      rw [List.filter_cons_of_neg (by simp [answers]), List.filterMap_cons_none reacts]
      exact ih
    | true =>
      have gains := a.isSome_gain owner
      rw [answers, if_pos rfl] at reacts
      obtain ⟨o, ho⟩ : ∃ o, a.gain owner = some o := by
        rw [← Option.isSome_iff_exists, gains]
        unfold ActiveEffect.answers at answers
        simp only [Bool.and_eq_true] at answers
        exact answers.1.1
      rw [List.filter_cons_of_pos answers, List.filterMap_cons_some (reacts.trans ho)]
      exact .cons ho ih

/-- **The reactions** to an impact are one gain for each effect that answers it, in their order. -/
theorem gains_of_answering (g : Game) (actor : PlayerId) (i : Impact) :
    List.Forall₂ (fun e o => e.2.gain e.1 = some o) (g.answering actor i)
      (g.reactionsToImpact actor i) := by
  unfold answering passives Table.mapValues reactionsToImpact reactions
  rw [List.flatMap_map]
  induction g.players.entries with
  | nil => exact .nil
  | cons e es ih =>
    rw [List.flatMap_cons, List.flatMap_cons]
    exact List.rel_append (forall₂_gains e.1 e.2.effects) ih

theorem addsPassive_reactionsToImpact (g : Game) (actor : PlayerId) (i : Impact) :
    ∀ o ∈ g.reactionsToImpact actor i, o.addsPassive = false := by
  intro o ho
  obtain ⟨e, he, gives⟩ := exists_left_of_forall₂ (g.gains_of_answering actor i) ho
  exact ActiveEffect.addsPassive_gain gives

theorem answering_congr (same : g'.passives = g.passives) :
    g'.answering actor i = g.answering actor i := by
  rw [answering, same, answering]

theorem type_of_answering {e : PlayerId × ActiveEffect} (he : e ∈ g.answering actor i) :
    ∃ t ∈ e.2.effect.triggers, t.type = i.type := by
  obtain ⟨f, -, he⟩ := List.mem_flatMap.1 he
  obtain ⟨a, ha, rfl⟩ := List.mem_map.1 he
  exact ActiveEffect.type_of_answers (List.mem_filter.1 ha).2

end Game

/-! ## Impacts bring no effect that stays -/

namespace Impact

variable {i : Impact} {g g' : Game} {actor : PlayerId} {source : Option Int} {d : Demand i}
  {answers : List Choice} {ops : List Operation} {more : List Impact}

theorem addEffect_not_mem_emits {t : ImpactType} (other : t ≠ .discountNextCard) :
    .addEffect ∉ t.emits := by
  cases t <;> first | decide | exact absurd rfl other

theorem addsPassive_of_leads (hd : i.demand g actor source = .ok d) (leads : d.Leads ops) :
    ∀ o ∈ ops, o.addsPassive = false := by
  by_cases discount : i.type = .discountNextCard
  · rw [demand, discount] at hd
    cases hd
    cases leads
    exact List.forall_mem_singleton.2 rfl
  · intro o ho
    have type : o.type ≠ .addEffect := by
      intro type
      exact addEffect_not_mem_emits discount (type ▸ demand_emits hd ops leads o ho)
    simp [Operation.addsPassive, type]

theorem Does.passives (does : i.Does actor source g answers ops more)
    (h : g.executeAll ops = .accepted g') : g'.passives = g.passives := by
  obtain ⟨d, hd, yields⟩ := does
  exact Game.executeAll_passives (addsPassive_of_leads hd yields.leads) h

theorem Settles.passives {deeds : List Deed} (h : Settles actor source g more answers deeds g') :
    g'.passives = g.passives := by
  induction h with
  | nil => rfl
  | skipped _ _ ih => exact ih
  | done does accepted _ ih => exact ih.trans (does.passives accepted)

end Impact

namespace Block

variable {b : Block} {blocks : List Block} {g g' : Game} {actor : PlayerId} {source : Option Int}

theorem Ends.passives (h : b.Ends actor source g') : g'.passives = b.game.passives := by
  cases h with
  | skipped => rfl
  | resolved does accepted settles concluded =>
    have gains := Game.executeAll_passives (Game.addsPassive_reactionsToImpact _ actor _) concluded
    exact gains.trans (settles.passives.trans (does.passives accepted))

/-- The block is empty and the impact is skipped, or every effect that answers the impact has gained from
it once, at the end of the block. -/
structure Answered (actor : PlayerId) (source : Option Int) (g : Game) (b : Block) : Prop where
  skipped : b.impact.demand b.game actor source = .ok .skip → b.operations = []
  gains : b.impact.demand b.game actor source ≠ .ok .skip →
    List.Forall₂ (fun e o => e.2.gain e.1 = some o) (g.answering actor b.impact) b.gains

theorem Ends.answered (h : b.Ends actor source g') (same : b.game.passives = g.passives) :
    b.Answered actor source g := by
  cases h with
  | skipped hd => exact ⟨fun _ => rfl, fun some => absurd hd some⟩
  | resolved does accepted settles concluded =>
    obtain ⟨d, hd, yields⟩ := id does
    refine ⟨fun skip => ?_, fun _ => ?_⟩
    · rw [hd] at skip
      cases skip
      cases yields
    · have kept := settles.passives.trans (does.passives accepted)
      rw [← Game.answering_congr (kept.trans same)]
      exact Game.gains_of_answering _ actor _

theorem Follow.answered (h : Follow actor source g blocks g') :
    ∀ b ∈ blocks, b.Answered actor source g := by
  induction h with
  | nil => exact List.forall_mem_nil _
  | @cons b bs g g₁ g' met ends _ ih =>
    have kept : g₁.passives = g.passives := met ▸ ends.passives
    refine List.forall_mem_cons.2 ⟨ends.answered (met ▸ rfl), fun c hc => ?_⟩
    obtain ⟨skipped, gains⟩ := ih c hc
    refine ⟨skipped, fun some => ?_⟩
    rw [← Game.answering_congr kept]
    exact gains some

end Block

/-! ## Complete resolutions -/

/-- **A complete resolution** emits one block for each impact of the queue, or for the option that it comes
to; the blocks follow each other, and each of them ends with one gain for every effect that answers its
impact.  Nothing else is answered: not a bonus, not a gain, and not the oxygen that a greenery brings,
since an effect only answers an impact of the type that it waits for. -/
theorem Impact.gains_answered {actor : PlayerId} {source : Option Int} {cs : List Choice}
    {queue : List Impact} {started : Progress} {ops : List Operation} {g' : Game}
    (h : resolve actor source cs queue started = .ok (.complete ops g')) :
    ∃ blocks : List Block,
      List.Forall₂ (fun i b => i.ComesTo b.chosen b.impact) queue blocks ∧
      ops = started.operations ++ blocks.flatMap Block.operations ∧
      (∃ unused, cs = blocks.flatMap Block.choices ++ unused) ∧
      Block.Follow actor source started.game blocks g' ∧
      ∀ b ∈ blocks, b.Answered actor source started.game ∧
        ∀ e ∈ started.game.answering actor b.impact,
          ∃ t ∈ e.2.effect.triggers, t.type = b.impact.type := by
  obtain ⟨done, rest, blocks, rfl, unfolds⟩ := resolve_unfolds h rfl
  obtain ⟨each, operations, choices, follow, left⟩ := unfolds
  -- nothing is left of the queue
  cases left
  rw [List.append_nil]
  exact ⟨blocks, each, operations, choices, follow,
    fun b hb => ⟨follow.answered b hb, fun e he => Game.type_of_answering he⟩⟩

/-- A game whose player gains plants when the temperature rises. -/
def Game.thaw : Game where
  board := .standard
  players := Table.ofList [(1, { id := 1, effects := [⟨0, .onImpact .gainResourceForAnyImpact 2
    [.raiseTemperature] (some .plants)⟩] })]

/-- In `thaw` the temperature is chosen over an ocean, and the player gains plants from it. -/
theorem Impact.gains_answered_thaw :
    ∃ ops g' blocks,
      resolve 1 none [.ofOption 1] [.oneOf [.placeOcean, .raiseTemperature]] { game := Game.thaw } =
        .ok (.complete ops g') ∧
      .changeResources 1 (some .plants) 2 ∈ ops ∧
      List.Forall₂ (fun (i : Impact) b => i.ComesTo b.chosen b.impact)
        [.oneOf [.placeOcean, .raiseTemperature]] blocks ∧
      ops = blocks.flatMap Block.operations ∧
      ∀ b ∈ blocks, b.Answered 1 none Game.thaw := by
  have resolves : ((resolve 1 none [.ofOption 1] [.oneOf [.placeOcean, .raiseTemperature]]
      { game := Game.thaw }).toOption.bind fun a => match a with
        | .complete ops g' => if .changeResources 1 (some .plants) 2 ∈ ops then some (ops, g') else none
        | _ => none).isSome = true := by
    decide +kernel
  obtain ⟨_, resolves⟩ := Option.isSome_iff_exists.1 resolves
  obtain ⟨a, ha, resolves⟩ := Option.bind_eq_some_iff.1 resolves
  cases a with
  | complete ops g' =>
    have gained : .changeResources 1 (some .plants) 2 ∈ ops := by
      by_contra missing
      simp [missing] at resolves
    have resolved := toOption_eq_some.1 ha
    obtain ⟨blocks, each, operations, -, -, answered⟩ := gains_answered resolved
    exact ⟨ops, g', blocks, resolved, gained, each, operations, fun b hb => (answered b hb).1⟩
  | _ => cases resolves

end Terraforming
