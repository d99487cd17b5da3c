import Terraforming.Proofs.Game.Sameness
import Terraforming.Proofs.Player.Payment
import Terraforming.Proofs.Turn.Transport
import Terraforming.Turn.Play

/-!
# The same turn

No turn depends on the order in which cards list their production: what is demanded, how effects
react and what is refused is the same in the normal form of a game.

* `Game.unseen_normal` — hence a resolution does not see whether it starts from the normal form;
* `Game.playCard_alike` — and the same card that is played in the same game comes to the same.
-/

namespace Terraforming

namespace Game

variable (g : Game)

theorem normal_entries :
    g.normal.players.entries = g.players.entries.map fun e => (e.1, e.2.normal) := rfl

theorem normal_playerIds : g.normal.playerIds = g.playerIds := by
  rw [playerIds, Table.keys, normal_entries, List.map_map]
  rfl

theorem normal_players : g.normal.players.values = g.players.values.map Player.normal := by
  rw [Table.values, normal_entries, List.map_map, Table.values, List.map_map]
  rfl

theorem normal_opponentsOf (p : PlayerId) :
    g.normal.opponentsOf p = (g.opponentsOf p).map Player.normal := by
  rw [opponentsOf, opponentsOf, normal_entries, List.filter_map, List.map_map, List.map_map]
  rfl

end Game

namespace Impact

variable (i : Impact) (g : Game) (actor : PlayerId) (source : Option Int)

/-! ## Demands -/

theorem holders_normal (q : Player) (except : Option Int) :
    i.holders q.normal except = (i.holders q except).map PlayedCard.normal :=
  List.filter_map ..

theorem demandOwnCard_normal (except : Option Int) :
    i.demandOwnCard g.normal actor except = i.demandOwnCard g actor except := by
  rw [demandOwnCard, demandOwnCard, g.normal_player]
  cases g.player actor with
  | error f => rfl
  | ok q =>
    simp only [Except.map, holders_normal]
    cases i.holders q except with
    | nil => rfl
    | cons c cs =>
      simp only [List.map_cons, List.map_map]
      rfl

theorem removable_normal (e : PlayerId × Player) :
    i.removable actor (e.1, e.2.normal) = i.removable actor e := by
  rw [removable, removable, Player.normal_played, List.filter_map, List.map_map]
  rfl

theorem heldOn_normal (target : PlayerId × Int) (kind : Option CardResource) :
    heldOn g.normal target kind = heldOn g target kind := by
  rw [heldOn, heldOn, g.normal_player?, Option.map_map]
  rfl

theorem demandRemoval_normal : i.demandRemoval g.normal actor = i.demandRemoval g actor := by
  have listed : g.normal.players.entries.flatMap (i.removable actor) =
      g.players.entries.flatMap (i.removable actor) := by
    rw [g.normal_entries, List.flatMap_map]
    exact congrArg (g.players.entries.flatMap ·) (funext (i.removable_normal actor))
  simp only [demandRemoval, listed, heldOn_normal]

theorem demandCards_normal : i.demandCards g.normal actor = i.demandCards g actor := by
  have deck : g.normal.deck.length = g.deck.length := List.length_map ..
  have discard : g.normal.discard.length = g.discard.length := List.length_map ..
  simp only [demandCards, deck, discard]

theorem demandGain_normal : i.demandGain g.normal actor = i.demandGain g actor := by
  rw [demandGain, demandGain, g.normal_player]
  cases g.player actor <;> rfl

theorem demandOwnPlants_normal : i.demandOwnPlants g.normal actor = i.demandOwnPlants g actor := by
  rw [demandOwnPlants, demandOwnPlants, g.normal_player]
  cases g.player actor <;> rfl

theorem plantsOf_normal (p : PlayerId) : plantsOf g.normal p = plantsOf g p := by
  rw [plantsOf, plantsOf, g.normal_player?, Option.map_map]
  rfl

theorem demandAnyPlants_normal : i.demandAnyPlants g.normal = i.demandAnyPlants g := by
  simp only [demandAnyPlants, g.normal_playerIds, plantsOf_normal]

theorem demandProduction_normal (delta : Int) :
    i.demandProduction g.normal actor delta = i.demandProduction g actor delta := by
  rw [demandProduction, demandProduction, g.normal_player]
  cases g.player actor <;> rfl

theorem tagGroups_normal (qs : List Player) :
    i.tagGroups (qs.map Player.normal) = i.tagGroups qs := by
  have counted : (qs.map Player.normal).mapM (fun q => q.tagCount i.tag) =
      qs.mapM fun q => q.tagCount i.tag := by
    rw [List.mapM_map]
    congr 1
    funext q
    exact q.normal_tagCount i.tag
  rw [tagGroups, tagGroups, counted]

theorem demandReduction_normal : i.demandReduction g.normal = i.demandReduction g := by
  have able : (g.normal.players.entries.filter fun e =>
        e.2.canReduceProduction i.resource i.count).map (·.1) =
      (g.players.entries.filter fun e => e.2.canReduceProduction i.resource i.count).map (·.1) := by
    rw [g.normal_entries, List.filter_map, List.map_map]
    rfl
  simp only [demandReduction, able]

theorem copyOps_normal (q : Player) (c : Card) :
    copyOps q.normal actor c.normal = copyOps q actor c := by
  have name : c.normal.name = c.name := rfl
  simp only [copyOps, Card.normal_ownChange, Player.normal_canReduceProduction, name]

theorem copyable_normal (q : Player) :
    i.copyable q.normal source = (i.copyable q source).map PlayedCard.normal := by
  have changes : ∀ c : Card, c.normal.ownProduction.values.any (· ≠ 0) =
      c.ownProduction.values.any (· ≠ 0) := by
    intro c
    rw [Bool.eq_iff_iff, List.any_eq_true, List.any_eq_true]
    simp only [Ledger.values, List.mem_map, Card.mem_normal_entries]
  rw [copyable, copyable, Player.normal_played, List.filter_map]
  congr 2
  funext c
  exact congrArg (_ && ·) (changes c.card)

theorem demandCopy_normal : i.demandCopy g.normal actor source = i.demandCopy g actor source := by
  rw [demandCopy, demandCopy, g.normal_player]
  cases g.player actor with
  | error f => rfl
  | ok q =>
    have copied : ∀ c : PlayedCard,
        copyOps q.normal actor c.normal.card = copyOps q actor c.card :=
      fun c => copyOps_normal actor q c.card
    simp only [Except.map, copyable_normal]
    cases i.copyable q source with
    | nil => rfl
    | cons c cs =>
      simp only [List.map_cons, List.map_map, Player.normal_played?]
      congr 2
      funext target
      cases q.played? target.2 with
      | none => rfl
      | some c => exact copied c

theorem demandRatingPerTag_normal :
    i.demandRatingPerTag g.normal actor = i.demandRatingPerTag g actor := by
  rw [demandRatingPerTag, demandRatingPerTag, g.normal_player]
  cases g.player actor with
  | error f => rfl
  | ok q =>
    have groups : i.tagGroups [q.normal] = i.tagGroups [q] := i.tagGroups_normal [q]
    simp only [Except.map, ok_bind, groups]

/-- What an impact demands in the normal form of a game is what it demands in the game. -/
theorem demand_normal : i.demand g.normal actor source = i.demand g actor source := by
  unfold demand
  cases i.type with
  | drawCard => exact congrArg Except.ok (i.demandCards_normal g actor)
  | gainTerraformRatingPerOwnTag => exact i.demandRatingPerTag_normal g actor
  | addResourceToAnotherCard | addResourceToAnyCard => exact i.demandOwnCard_normal g actor _
  | removeResourceFromAnyCard => exact i.demandRemoval_normal g actor
  | gainResource => exact i.demandGain_normal g actor
  | destroyOwnPlants => exact i.demandOwnPlants_normal g actor
  | destroyAnyPlants => exact congrArg Except.ok (i.demandAnyPlants_normal g)
  | gainProduction | gainProductionPerCity | gainProductionPerCityOnMars =>
    exact i.demandProduction_normal g actor _
  | gainProductionPerOwnTag =>
    simp only [g.normal_player]
    cases g.player actor with
    | error f => rfl
    | ok q =>
      have groups : i.tagGroups [q.normal] = i.tagGroups [q] := i.tagGroups_normal [q]
      simp only [Except.map, ok_bind, groups, demandProduction_normal]
  | gainProductionPerOpponentTag =>
    simp only [g.normal_opponentsOf, tagGroups_normal, demandProduction_normal]
  | gainProductionPerAnyTag =>
    simp only [g.normal_players, tagGroups_normal, demandProduction_normal]
  | reduceAnyProduction => exact congrArg Except.ok (i.demandReduction_normal g)
  | copyProductionOfCard => exact i.demandCopy_normal g actor source
  | _ => rfl

end Impact

/-! ## Reactions and resolutions -/

namespace Game

variable (g : Game)

theorem reactions_normal (react : PlayerId → ActiveEffect → Option Operation) :
    g.normal.reactions react = g.reactions react := by
  rw [reactions, reactions, normal_entries, List.flatMap_map]
  rfl

/-- No resolution sees the order in which cards list their production. -/
theorem unseen_normal : Unseen normal (List.map Operation.normal) where
  board _ := rfl
  demand := Impact.demand_normal
  reactions g actor i := g.reactions_normal _
  execute g o consequence := by
    have alike := execute_normal (g := g) consequence
    rwa [Operation.normal_of_isConsequence consequence] at alike
  note os ops follow := by rw [List.map_append, follow.map_normal]

end Game

/-! ## Requirements and payments -/

namespace Player

variable (q : Player) (b : Board) (c : Card)

theorem fulfils_normal (r : Requirement) : q.normal.fulfils b r = q.fulfils b r := by
  unfold fulfils
  rw [normal_tagCount]
  rfl

theorem paymentFor_normal (cost : Cost) : q.normal.paymentFor cost = q.paymentFor cost :=
  @paymentFor_congr q q.normal rfl rfl cost

theorem unmetRequirements_normal :
    q.normal.unmetRequirements b c.normal = q.unmetRequirements b c := by
  have requirements : c.normal.requirements = c.requirements := rfl
  have cost : q.normal.effectiveCost c.normal = q.effectiveCost c := rfl
  simp only [unmetRequirements, unfulfilled, requirements, fulfils_normal, cost, canAfford,
    paymentFor_normal]

end Player

/-! ## Playing a card -/

/-- What a complete attempt comes to. -/
def Attempt.outcome? : Attempt → Option Progress
  | complete ops g => some ⟨g, ops⟩
  | _ => none

/-- The progress with every card in normal form. -/
def Progress.normal (p : Progress) : Progress := p.carry Game.normal (List.map Operation.normal)

namespace Game

variable (g : Game) (p : PlayerId) (q : Player) (c : Card)

/-- Which loss cannot be borne may depend on the order, but not whether there is one. -/
theorem unbearableLoss?_normal :
    (unbearableLoss? q.normal c.normal).isSome = (unbearableLoss? q c).isSome := by
  rw [Bool.eq_iff_iff, unbearableLoss?, unbearableLoss?, List.find?_isSome, List.find?_isSome]
  simp only [Card.mem_normal_entries, Player.normal_canReduceProduction]

theorem playRefusal?_normal :
    (g.normal.playRefusal? q.normal c.normal).map Option.isSome =
      (g.playRefusal? q c).map Option.isSome := by
  simp only [playRefusal?, Player.normal_holds, normal_board, Player.unmetRequirements_normal]
  cases q.holds c with
  | false => rfl
  | true =>
    cases q.unmetRequirements g.board c with
    | error f => rfl
    | ok reasons =>
      cases reasons with
      | nil => simp [Except.map, unbearableLoss?_normal]
      | cons r rs => rfl

theorem followUps_normal : followUps p q.normal c.normal = followUps p q c := by
  simp only [followUps, Card.normal_ownChange]
  rfl

theorem entryOps_normal (payment : Pool) :
    entryOps p q.normal c.normal payment = (entryOps p q c payment).map Operation.normal := by
  rw [entryOps_eq, entryOps_eq, followUps_normal, List.map_append, List.map_cons,
    (consequences_paymentOps p payment).map_normal, (consequences_followUps p q c).map_normal]
  rfl

theorem emit_entryOps_normal (payment : Pool) :
    ({ game := g.normal } : Progress).emit (entryOps p q.normal c.normal payment) =
      (({ game := g } : Progress).emit (entryOps p q c payment)).map Progress.normal := by
  have alike : ∀ o ∈ entryOps p q c payment, ∀ g : Game,
      (g.normal.execute o.normal).toExcept = (g.execute o).toExcept.map normal := by
    intro o ho g
    rw [entryOps_eq, List.mem_append, List.mem_cons] at ho
    rcases ho with ho | rfl | ho
    · exact execute_normal (consequences_paymentOps p payment o ho)
    · exact execute_putCardIntoPlay_normal c q.nextInstance
    · exact execute_normal (consequences_followUps p q c o ho)
  rw [entryOps_normal, Progress.emit, Progress.emit, executeAll_normal alike]
  cases (g.executeAll (entryOps p q c payment)).toExcept <;> rfl

/-- What comes once the card is in play: the effects react, and its impacts are resolved. -/
theorem afterEntry_normal (source : Option Int) (cs : List Choice) (entered : Progress) :
    (entered.normal.emit (entered.normal.game.reactionsToCard p c.normal) >>=
        Impact.resolve p source cs (playImpacts c.normal)).map Attempt.outcome? =
      (entered.emit (entered.game.reactionsToCard p c) >>=
        Impact.resolve p source cs (playImpacts c)).map
          fun a => a.outcome?.map Progress.normal := by
  have reacted : entered.normal.emit (entered.normal.game.reactionsToCard p c.normal) =
      (entered.emit (entered.game.reactionsToCard p c)).map Progress.normal := by
    have same : entered.normal.game.reactionsToCard p c.normal =
        entered.game.reactionsToCard p c := entered.game.reactions_normal _
    rw [same]
    exact unseen_normal.emit entered (entered.game.consequences_reactionsToCard p c)
  rw [reacted]
  cases entered.emit (entered.game.reactionsToCard p c) with
  | error f => rfl
  | ok ready =>
    have resolved : Impact.resolve p source cs (playImpacts c.normal) ready.normal =
        (Impact.resolve p source cs (playImpacts c) ready).map
          (·.carry normal (List.map Operation.normal)) := unseen_normal.resolve
    show Except.map _ (Impact.resolve p source cs (playImpacts c.normal) ready.normal) =
      Except.map _ (Impact.resolve p source cs (playImpacts c) ready)
    rw [resolved]
    cases Impact.resolve p source cs (playImpacts c) ready with
    | error f => rfl
    | ok a => cases a <;> rfl

/-- Playing a card in the normal form of a game comes to the normal form of what playing it in the
game comes to. -/
theorem playCard_normal (cs : List Choice) :
    (g.normal.playCard p c.normal cs).map Attempt.outcome? =
      (g.playCard p c cs).map fun a => a.outcome?.map Progress.normal := by
  rw [playCard, playCard, normal_player]
  cases g.player p with
  | error f => rfl
  | ok q =>
    have refusal := g.playRefusal?_normal q c
    have payment : q.normal.paymentFor (q.normal.effectiveCost c.normal) =
        q.paymentFor (q.effectiveCost c) := q.paymentFor_normal (q.effectiveCost c)
    rw [show ((Except.ok q : Except Fault Player).map Player.normal) = .ok q.normal from rfl, ok_bind,
      ok_bind, payment]
    cases hr : g.playRefusal? q c with
    | error f =>
      rw [hr] at refusal
      rw [map_eq_error.1 refusal]
      rfl
    | ok r =>
      rw [hr] at refusal
      obtain ⟨r', hr', same⟩ := map_eq_ok.1 refusal
      rw [hr']
      cases r with
      | some r =>
        cases r' with
        | none => cases same
        | some r' => rfl
      | none =>
        cases r' with
        | some r' => cases same
        | none =>
          simp only [ok_bind]
          cases q.paymentFor (q.effectiveCost c) with
          | error f => rfl
          | ok payment =>
            cases payment with
            | none => rfl
            | some payment =>
              simp only [ok_bind, emit_entryOps_normal]
              cases ({ game := g } : Progress).emit (entryOps p q c payment) with
              | error f => rfl
              | ok entered => exact afterEntry_normal p c (some q.nextInstance) cs entered

/-- **The same card in the same game comes to the same.** -/
theorem playCard_alike {g h : Game} {c d : Card} (game : g.normal = h.normal)
    (card : c.normal = d.normal) (p : PlayerId) (cs : List Choice) :
    ((g.playCard p c cs).map fun a => a.outcome?.map Progress.normal) =
      (h.playCard p d cs).map fun a => a.outcome?.map Progress.normal := by
  rw [← playCard_normal, ← playCard_normal, game, card]

section

variable {g h : Game} {p : PlayerId} {c d : Card} {cs : List Choice}

theorem playCard_ok_alike (game : g.normal = h.normal) (card : c.normal = d.normal)
    (answers : ∃ a, g.playCard p c cs = .ok a) : ∃ a, h.playCard p d cs = .ok a := by
  obtain ⟨a, ha⟩ := answers
  have alike := playCard_alike game card p cs
  rw [ha] at alike
  obtain ⟨b, hb, -⟩ := map_eq_ok.1 alike.symm
  exact ⟨b, hb⟩

theorem playCard_complete_alike {ops : List Operation} {g' : Game} (game : g.normal = h.normal)
    (card : c.normal = d.normal) (complete : g.playCard p c cs = .ok (.complete ops g')) :
    ∃ ops' h', h.playCard p d cs = .ok (.complete ops' h') ∧ h'.normal = g'.normal ∧
      ops'.map Operation.normal = ops.map Operation.normal := by
  have alike := playCard_alike game card p cs
  rw [complete] at alike
  obtain ⟨b, hb, same⟩ := map_eq_ok.1 alike.symm
  cases b with
  | unplayable r => cases same
  | waiting ops' remaining pending source h' => cases same
  | complete ops' h' =>
    obtain ⟨game', noted⟩ := Progress.mk.inj (Option.some.inj same)
    exact ⟨ops', h', hb, game', noted⟩

end

end Game

end Terraforming
