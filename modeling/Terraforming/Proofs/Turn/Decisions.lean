import Terraforming.Proofs.Game.Cards
import Terraforming.Proofs.Turn.Invariants
import Terraforming.Proofs.Turn.Outline
import Terraforming.Proofs.Turn.Resumption

/-!
# What decisions offer

The operations that impacts lead to are consequences, and the answers to their demands are found on
the board, among the players or among the cards in play.  Hence

* `Impact.resolve_keepsCards` — a resolution keeps the cards;
* `Demand.distinct` — no answer is listed twice, when the cards in play have ids of their own;
* `Impact.resolve_listed` — an answer that is accepted does what one of the listed answers does.
-/

namespace Terraforming

/-- No player has two cards in play under one id. -/
def Game.Numbered (g : Game) : Prop :=
  ∀ p q, g.player? p = some q → (q.played.map (·.instanceId)).Nodup

/-- Only what is in play matters. -/
theorem Game.Numbered.of_inPlay {g g' : Game} (numbered : g.Numbered)
    (same : ∀ p, (g'.player? p).map Player.inPlay = (g.player? p).map Player.inPlay) :
    g'.Numbered := by
  intro p q' hq'
  have here := same p
  rw [hq'] at here
  obtain ⟨q, hq, inPlay⟩ := Option.map_eq_some_iff.1 here.symm
  have played : q.played = q'.played := congrArg Prod.fst inPlay
  exact played ▸ numbered p q hq

/-! ## Keeping the cards -/

theorem Progress.keepsCards_emit {p p' : Progress} {ops : List Operation}
    (keep : Operation.Consequences ops) (h : p.emit ops = .ok p') : p.game.KeepsCards p'.game :=
  Game.keepsCards_executeAll keep (emit_eq_ok.1 h).1

namespace Impact

/-- Any impacts keep what has kept the cards so far. -/
theorem maintains_keepsCards (g₀ : Game) : Maintains (fun _ => True) g₀.KeepsCards where
  met := by
    intro g g' i actor source d cs keeps _ hd accepted
    have follow := (demand_outline hd).meet g.board cs
    have consequences : Operation.Consequences (d.meet g.board cs).operations := by
      cases hm : d.meet g.board cs with
      | performed ops | answered ops bonuses rest used =>
        rw [hm] at follow
        exact follow
      | waiting | skipped | refused | replaced => exact fun o ho => nomatch ho
    exact keeps.trans (Game.keepsCards_executeAll consequences accepted)
  reactions := by
    intro g g' i actor keeps accepted
    have consequences := g.consequences_reactionsToImpact actor i
    exact keeps.trans (Game.keepsCards_executeAll consequences accepted)
  bonuses _ _ _ _ := trivial

/-- Whatever comes of a resolution, what is in play stays as it is, and the other cards are still in
a hand or a pile. -/
theorem resolve_keepsCards {actor : PlayerId} {source : Option Int} {cs : List Choice}
    {p : Progress} {queue : List Impact} {a : Attempt} {g : Game}
    (h : resolve actor source cs queue p = .ok a) (hg : a.game? = some g) : p.game.KeepsCards g :=
  ((maintains_keepsCards p.game).resolve (.refl _) (fun _ _ _ _ => trivial) h).game hg

end Impact

/-! ## Distinct answers -/

theorem Board.nodup_legalLocations (b : Board) (p : PlayerId) (rs : List Restriction) :
    (b.legalLocations p rs).Nodup :=
  b.spaces.nodup_keys.filter _

theorem nodup_cardsInPlay {p : PlayerId} {played cs : List PlayedCard}
    (distinct : (played.map (·.instanceId)).Nodup) (among : cs.Sublist played) :
    (cs.map fun c => (p, c.instanceId)).Nodup := by
  have own : (cs.map (·.instanceId)).Nodup := distinct.sublist (among.map _)
  have paired : cs.map (fun c => (p, c.instanceId)) = (cs.map (·.instanceId)).map (p, ·) := by
    rw [List.map_map]
    rfl
  rw [paired]
  exact own.map (Prod.mk_right_injective p)

theorem nodup_cardsOfAll {g : Game} {cs : PlayerId × Player → List PlayedCard}
    (numbered : g.Numbered) (among : ∀ e, (cs e).Sublist e.2.played) :
    (g.players.entries.flatMap fun e => (cs e).map fun c => (e.1, c.instanceId)).Nodup := by
  refine List.nodup_flatMap.2 ⟨?_, ?_⟩
  · intro e he
    exact nodup_cardsInPlay (numbered e.1 e.2 (Table.get?_eq_some_iff.2 he)) (among e)
  · refine (List.pairwise_map.1 g.players.nodup_keys).imp fun {e e'} apart => ?_
    intro t ht ht'
    obtain ⟨c, -, rfl⟩ := List.mem_map.1 ht
    obtain ⟨c', -, same⟩ := List.mem_map.1 ht'
    exact apart (congrArg Prod.fst same).symm

/-- When the cards in play have ids of their own, a decision lists no answer twice. -/
theorem Demand.distinct {i : Impact} {g : Game} {actor : PlayerId} {d : Demand i} {b : Board}
    {options : Options} (outline : d.Outline g actor) (numbered : g.Numbered)
    (hw : d.meet b [] = .waiting options) : options.choices.Nodup := by
  cases outline with
  | skip | refuse _ | perform _ => cases hw
  | place keep =>
    cases hw
    exact (g.board.nodup_legalLocations actor _).map fun l l' same => by cases same; rfl
  | aim among keep =>
    cases hw
    exact (g.players.nodup_keys.sublist among).map fun p p' same => by cases same; rfl
  | pickOwn hq among keep =>
    cases hw
    exact (nodup_cardsInPlay (numbered actor _ hq) among).map fun t t' same => by
      cases t
      cases t'
      cases same
      rfl
  | pickAny among keep =>
    cases hw
    exact (nodup_cardsOfAll numbered among).map fun t t' same => by
      cases t
      cases t'
      cases same
      rfl
  | choose =>
    cases hw
    exact List.nodup_range.map fun n n' same => by cases same; rfl

/-! ## Accepted answers -/

namespace Impact

variable {i : Impact} {is : List Impact} {actor : PlayerId} {source : Option Int} {p : Progress}
  {d : Demand i} {options : Options} {c : Choice}

/-- A last bonus that needs no decision is settled by what it performs. -/
theorem settleBonuses_performed {cs : List Choice} {ops : List Operation} {p₁ : Progress}
    (hd : i.demand p.game actor source = .ok d) (hm : d.meet p.game.board cs = .performed ops)
    (performed : p.emit ops = .ok p₁) : settleBonuses actor source cs [i] p = .ok (cs, p₁) := by
  rw [settleBonuses]
  simp only [hd, hm, performed]
  rw [settleBonuses]

/-- A last bonus that has its answer is settled by what that leads to. -/
theorem settleBonuses_answered {cs rest : List Choice} {ops : List Operation}
    {used : rest.length < cs.length} {p₁ : Progress} (hd : i.demand p.game actor source = .ok d)
    (hm : d.meet p.game.board cs = .answered ops [] rest used) (performed : p.emit ops = .ok p₁) :
    settleBonuses actor source cs [i] p = .ok (rest, p₁) := by
  rw [settleBonuses]
  simp only [hd, hm, performed]
  rw [List.append_nil, settleBonuses]

/-- After an impact that has its answer comes the rest of the queue, if its placement bonuses are
settled. -/
theorem resolve_cons_settled {cs rest rest' : List Choice} {ops : List Operation}
    {bonuses : List Impact} {used : rest.length < cs.length} {p₁ p₂ p₃ : Progress}
    (hd : i.demand p.game actor source = .ok d)
    (hm : d.meet p.game.board cs = .answered ops bonuses rest used) (performed : p.emit ops = .ok p₁)
    (settled : settleBonuses actor source rest bonuses p₁ = .ok (rest', p₂))
    (concluded : i.conclude actor p₂ = .ok p₃) :
    resolve actor source cs (i :: is) p = resolve actor source rest' is p₃ := by
  rw [resolve]
  simp only [hd, hm, performed, ok_bind, settled, concluded]

/-- A last impact that has its answer ends the move, if its placement bonuses are settled. -/
theorem resolve_settled {cs rest rest' : List Choice} {ops : List Operation} {bonuses : List Impact}
    {used : rest.length < cs.length} {p₁ p₂ p₃ : Progress} (hd : i.demand p.game actor source = .ok d)
    (hm : d.meet p.game.board cs = .answered ops bonuses rest used) (performed : p.emit ops = .ok p₁)
    (settled : settleBonuses actor source rest bonuses p₁ = .ok (rest', p₂))
    (concluded : i.conclude actor p₂ = .ok p₃) :
    resolve actor source cs [i] p = .ok (.complete p₃.operations p₃.game) := by
  rw [resolve_cons_settled hd hm performed settled concluded, resolve]

/-- There may be no placement bonuses. -/
theorem resolve_answered {cs rest : List Choice} {ops : List Operation}
    {used : rest.length < cs.length} {p₁ p₂ : Progress} (hd : i.demand p.game actor source = .ok d)
    (hm : d.meet p.game.board cs = .answered ops [] rest used) (performed : p.emit ops = .ok p₁)
    (concluded : i.conclude actor p₁ = .ok p₂) :
    resolve actor source cs [i] p = .ok (.complete p₂.operations p₂.game) :=
  resolve_settled hd hm performed (by rw [settleBonuses]) concluded

/-- An answer that is accepted does what one of the listed answers does, whatever else it says. -/
theorem resolve_listed (hd : i.demand p.game actor source = .ok d)
    (hw : d.meet p.game.board [] = .waiting options) (hc : options.accepts c = true) :
    ∃ c' ∈ options.choices, ∀ cs,
      resolve actor source (c :: cs) (i :: is) p = resolve actor source (c' :: cs) (i :: is) p := by
  cases d with
  | skip | refuse _ | perform _ => cases hw
  | place ls ops =>
    cases hw
    obtain ⟨l, legal, hl⟩ := filter_of_contains hc
    have listed : (Choice.at_ l).location.filter (· ∈ ls) = some l :=
      filter_mem_iff.2 ⟨rfl, legal⟩
    refine ⟨.at_ l, List.mem_map_of_mem legal, fun cs => ?_⟩
    rw [resolve, resolve]
    simp only [hd, Demand.meet, hl, listed]
  | aim ps ops =>
    cases hw
    obtain ⟨t, legal, ht⟩ := filter_of_contains hc
    have listed : (Choice.ofPlayer t).player.filter (· ∈ ps) = some t :=
      filter_mem_iff.2 ⟨rfl, legal⟩
    refine ⟨.ofPlayer t, List.mem_map_of_mem legal, fun cs => ?_⟩
    rw [resolve, resolve]
    simp only [hd, Demand.meet, ht, listed]
  | pick ts ops =>
    cases hw
    obtain ⟨t, legal, ht⟩ := filter_of_contains hc
    have listed : (Choice.ofCard t).card?.filter (· ∈ ts) = some t :=
      filter_mem_iff.2 ⟨rfl, legal⟩
    refine ⟨.ofCard t, List.mem_map_of_mem legal, fun cs => ?_⟩
    rw [resolve, resolve]
    simp only [hd, Demand.meet, ht, listed]
    cases ops t <;> rfl
  | choose =>
    cases hw
    obtain ⟨k, high, hk⟩ := filter_of_within hc
    have listed : (Choice.ofOption k).option.filter (0 ≤ ·) = some (k : Int) :=
      Option.filter_eq_some_iff.2 ⟨rfl, decide_eq_true (Int.natCast_nonneg k)⟩
    refine ⟨.ofOption k, List.mem_map_of_mem (List.mem_range.2 high), fun cs => ?_⟩
    rw [resolve, resolve]
    simp only [hd, Demand.meet, hk, listed, Int.toNat_natCast, dif_pos high]

end Impact

end Terraforming
