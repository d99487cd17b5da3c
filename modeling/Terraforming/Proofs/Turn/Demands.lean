import Terraforming.Proofs.Board.Standard
import Terraforming.Proofs.Card.Complete
import Terraforming.Proofs.Data.Enumeration
import Terraforming.Proofs.Game.Acceptance
import Terraforming.Proofs.Turn.Questions

/-!
# Demands that can be met

In a regular game, what a well-made impact demands can always be had: the demand is worked out
without a fault, and the operations that each legal answer leads to are accepted.

* `Impact.demand_answers` — the demand is worked out if the impact has what its type reads;
* `Demand.Feasible` — what can be had of a demand;
* `Impact.demand_feasible` — every demand of an impact that is ready.
-/

namespace Terraforming

namespace Game

variable {g g' : Game} {o : Operation} {os : List Operation} {actor p : PlayerId} {q : Player}
  {source : Option Int} {n : Int}

/-- The operations are accepted, and the game stays regular and keeps what there was. -/
def Admits (g : Game) (os : List Operation) : Prop := ∃ g', g.Reaches os g'

theorem Admits.cons (first : g.Reaches [o] g') (rest : g'.Admits os) : g.Admits (o :: os) := by
  obtain ⟨g'', rest⟩ := rest
  exact ⟨g'', first.cons rest⟩

theorem admits_rating (regular : g.Regular) (hq : g.player? p = some q) (hn : 0 ≤ n) :
    g.Admits [.raiseTerraformRating p n] :=
  reaches_raiseTerraformRating regular hq hn

/-- A player who is there before is there after. -/
theorem Reaches.player (h : g.Reaches os g') (hq : g.player? p = some q) :
    ∃ q', g'.player? p = some q' := by
  obtain ⟨q', hq', -⟩ := h.keeps p q hq
  exact ⟨q', hq'⟩

/-! ## Tiles -/

theorem reaches_placeTile {l : Location} {t : Tile} {b : Board} (regular : g.Regular)
    (ho : o.command? = .ok (.placeTile l t)) (shows : t.Shows) (h : g.board.place l t = .ok b) :
    g.Reaches [o] ({ g with board := b }.note o) := by
  refine reaches_run regular ho shows ?_
  show (g.board.place l t).map _ = _
  rw [h]
  rfl

theorem admits_raiseTemperature (regular : g.Regular) (hq : g.player? p = some q)
    (below : g.board.temperatureMaxed = false) :
    g.Admits [.raiseTemperature, .raiseTerraformRating p] := by
  have first : g.Reaches [.raiseTemperature] _ :=
    reaches_run (c := .raiseTemperature) regular rfl trivial
      (map_eq_ok.2 ⟨_, Board.raiseTemperature_eq_ok.2 ⟨below, rfl⟩, rfl⟩)
  exact .cons first (admits_rating first.regular hq (by decide))

theorem admits_oxygenStep (regular : g.Regular) (hq : g.player? p = some q)
    (below : g.board.oxygenMaxed = false) : g.Admits (Impact.oxygenStep p) := by
  have first : g.Reaches [.raiseOxygen] _ :=
    reaches_run (c := .raiseOxygen) regular rfl trivial
      (map_eq_ok.2 ⟨_, Board.raiseOxygen_eq_ok.2 ⟨below, rfl⟩, rfl⟩)
  exact .cons first (admits_rating first.regular hq (by decide))

/-- A tile goes down where it is allowed: a city anywhere, anything else on ground. -/
theorem place_of_allowed {l : Location} {t : Tile} {rs : List Restriction} (regular : g.Regular)
    (hl : l ∈ g.board.legalLocations p rs)
    (fits : t.isCity = true ∨ rs.any Restriction.asksForGround = true ∧
      (t.kind = .greenery ∨ t.kind = .specialTile ∨ t.kind = .ocean ∧ g.board.oceansMaxed = false)) :
    ∃ b, g.board.place l t = .ok b := by
  obtain ⟨space, hs, empty, -⟩ := Board.mem_legalLocations hl
  have onBoard : g.board.spaces.contains l = true := by rw [Table.contains, hs]; rfl
  rcases fits with city | ⟨ground, kind⟩
  · exact ⟨_, Board.place_eq_ok.2 ⟨onBoard, empty, .inl ⟨city, rfl⟩⟩⟩
  · obtain ⟨x, rfl⟩ := Board.onMars_of_allowed regular.stocked.spaces ground hl
    rcases kind with kind | kind | ⟨kind, left⟩
    · exact ⟨_, Board.place_eq_ok.2 ⟨onBoard, empty, .inr ⟨x, rfl, by simp [Tile.isCity, kind],
        Board.cover_eq_ok.2 (.inr (.inl ⟨kind, rfl⟩))⟩⟩⟩
    · exact ⟨_, Board.place_eq_ok.2 ⟨onBoard, empty, .inr ⟨x, rfl, by simp [Tile.isCity, kind],
        Board.cover_eq_ok.2 (.inr (.inr ⟨kind, rfl⟩))⟩⟩⟩
    · exact ⟨_, Board.place_eq_ok.2 ⟨onBoard, empty, .inr ⟨x, rfl, by simp [Tile.isCity, kind],
        Board.cover_eq_ok.2 (.inl ⟨kind, left, rfl⟩)⟩⟩⟩

/-! ## The card that an impact comes from -/

/-- The kind of resource that the source of an impact supports. -/
def kindAt (g : Game) (actor : PlayerId) (source : Option Int) : Option CardResource :=
  (source.bind fun s => (g.player? actor).bind fun q => q.played? s).bind
    fun c => c.card.supportedResource?

theorem kindAt_eq_some {kind : CardResource} :
    g.kindAt actor source = some kind ↔ ∃ s q c, source = some s ∧ g.player? actor = some q ∧
      q.played? s = some c ∧ c.card.supportedResource? = some kind := by
  simp only [kindAt, Option.bind_eq_some_iff]
  constructor
  · rintro ⟨c, ⟨s, hs, q, hq, hc⟩, holds⟩
    exact ⟨s, q, c, hs, hq, hc, holds⟩
  · rintro ⟨s, q, c, hs, hq, hc, holds⟩
    exact ⟨c, ⟨s, hs, q, hq, hc⟩, holds⟩

theorem Keeps.kindAt (kept : g.Keeps g') {kind : CardResource}
    (h : g.kindAt actor source = some kind) : g'.kindAt actor source = some kind := by
  obtain ⟨s, q, c, hs, hq, hc, holds⟩ := kindAt_eq_some.1 h
  obtain ⟨q', hq', cards⟩ := kept _ _ hq
  exact kindAt_eq_some.2 ⟨s, q', c, hs, hq', Player.played?_of_prefix cards hc, holds⟩

end Game

namespace Impact

variable {i : Impact} {g g' : Game} {actor : PlayerId} {source : Option Int}

theorem ready_mono {kind kind' : Option CardResource}
    (h : ∀ k, kind = some k → kind' = some k) (ready : i.ready kind = true) :
    i.ready kind' = true := by
  cases kind with
  | some k => exact h k rfl ▸ ready
  | none =>
    unfold Impact.ready at ready ⊢
    split at ready <;> first | exact ready | cases ready

/-- The impact and everything that it offers have what they need, coming from the card `source` of
`actor`. -/
def Ready (g : Game) (actor : PlayerId) (source : Option Int) (i : Impact) : Prop :=
  ∀ j ∈ i.walk, j.ready (g.kindAt actor source) = true

theorem Ready.mono (ready : i.Ready g actor source) (kept : g.Keeps g') :
    i.Ready g' actor source :=
  fun j hj => ready_mono (fun _ hk => kept.kindAt hk) (ready j hj)

theorem Ready.option {j : Impact} (ready : i.Ready g actor source) (hj : j ∈ i.options) :
    j.Ready g actor source :=
  fun k hk => ready k (walk_subset_of_mem_options hj hk)

theorem Ready.self (ready : i.Ready g actor source) :
    i.ready (g.kindAt actor source) = true :=
  ready i i.mem_walk_self

end Impact

/-! ## Demands -/

/-- What the demand leads to can be had: every operation is accepted, whatever legal answer is
given. -/
def Demand.Feasible {i : Impact} (g : Game) : Demand i → Prop
  | skip | refuse _ | choose => True
  | perform ops => g.Admits ops
  | place ls ops => ∀ l ∈ ls, g.Admits (ops l)
  | aim ps ops => ∀ p ∈ ps, g.Admits (ops p)
  | pick ts ops => ∀ t ∈ ts, ∀ os, ops t = .ok os → g.Admits os

/-- The demand is worked out, and what it leads to can be had. -/
def Impact.Attainable (i : Impact) (g : Game) (d : Except Fault (Demand i)) : Prop :=
  ∃ d', d = .ok d' ∧ d'.Feasible g

theorem ImpactType.needsResource_of_productive {t : ImpactType} (h : t ∈ productive) :
    t.needsResource = true := by
  revert t
  decide

/-- The impact has the parameters that its type reads. -/
structure Impact.Informed (i : Impact) : Prop where
  resource : i.type.needsResource = true → ∃ r, i.resource = some r
  cardResource : i.type.needsCardResource = true → ∃ kind, i.cardResource = some kind
  tile : i.type = .placeSpecialTile → ∃ tile, i.specialTile = some tile
  tags : i.type.countsTags = true → countable i.tag i.per = true

namespace Impact

variable {i : Impact} {g : Game} {actor : PlayerId} {q : Player} {source : Option Int} {d : Demand i}

theorem informed_of_supplied (supplied : i.supplied = true) : i.Informed where
  resource := resource_of_supplied supplied
  cardResource := cardResource_of_supplied supplied
  tile := tile_of_supplied supplied
  tags := countable_of_supplied supplied

theorem informed_of_ready {kind : Option CardResource} (ready : i.ready kind = true) :
    i.Informed := by
  unfold Impact.ready at ready
  constructor
  all_goals
    intro needs
    cases type : i.type <;>
      simp_all [ImpactType.needsResource, ImpactType.needsCardResource, ImpactType.countsTags,
        Option.isSome_iff_exists]

/-! ### Working it out -/

/-- Tags that can be counted are. -/
theorem tagGroups_answers (counts : countable i.tag i.per = true) (qs : List Player) :
    ∃ n, i.tagGroups qs = .ok n := by
  rw [countable, Bool.and_eq_true, decide_eq_true_eq, decide_eq_true_eq] at counts
  obtain ⟨tag, per⟩ := counts
  obtain ⟨tags, counted⟩ : ∃ tags, qs.mapM (fun q => q.tagCount i.tag) = .ok tags :=
    mapM_total fun q _ => by
      rw [Player.tagCount, if_neg tag]
      exact ⟨_, rfl⟩
  have grouped : Player.groups (total tags) i.per = .ok (Int.fdiv (total tags) i.per) := by
    rw [Player.groups, if_neg (Int.ne_of_gt per)]
  exact ⟨_, bind_eq_ok.2 ⟨tags, counted, grouped⟩⟩

/-- Tags are counted in groups of which none is negative. -/
theorem tagGroups_nonneg {qs : List Player} {n : Int} (per : 0 ≤ i.per)
    (h : i.tagGroups qs = .ok n) : 0 ≤ n := by
  obtain ⟨tags, counted, grouped⟩ := bind_eq_ok.1 h
  have each : ∀ t ∈ tags, 0 ≤ t := by
    intro t ht
    obtain ⟨q, -, count⟩ := exists_left_of_forall₂ (mapM_eq_ok.1 counted) ht
    unfold Player.tagCount at count
    split at count
    · cases count
    · cases count
      exact Int.natCast_nonneg _
  unfold Player.groups at grouped
  split at grouped
  · cases grouped
  · cases grouped
    exact Int.fdiv_nonneg (total_nonneg each) per

theorem demandGain_answers (hq : g.player? actor = some q) {r : Resource} (hr : i.resource = some r) :
    ∃ d, i.demandGain g actor = .ok d := by
  unfold demandGain
  rw [Game.player_eq_ok.2 hq, ok_bind, hr]
  split
  · exact ⟨_, rfl⟩
  · split <;> exact ⟨_, rfl⟩

theorem demandProduction_answers (hq : g.player? actor = some q) {r : Resource}
    (hr : i.resource = some r) (delta : Int) : ∃ d, i.demandProduction g actor delta = .ok d := by
  unfold demandProduction
  rw [hr]
  split
  · exact ⟨_, rfl⟩
  · split
    · rw [Game.player_eq_ok.2 hq, ok_bind]
      split <;> exact ⟨_, rfl⟩
    · exact ⟨_, rfl⟩

/-- What an impact that has its parameters demands of a player is worked out. -/
theorem demand_answers (informed : i.Informed) (hq : g.player? actor = some q)
    (source : Option Int) : ∃ d, i.demand g actor source = .ok d := by
  unfold demand
  cases type : i.type with
  | gainTerraformRatingPerOwnTag =>
    obtain ⟨n, hn⟩ := tagGroups_answers (informed.tags (by rw [type]; rfl)) [q]
    simp only [demandRatingPerTag, Game.player_eq_ok.2 hq, ok_bind, hn]
    split <;> exact ⟨_, rfl⟩
  | placeSpecialTile =>
    obtain ⟨tile, named⟩ := informed.tile type
    simp only [demandSpecialTile, named]
    exact ⟨_, rfl⟩
  | removeResourceFromAnyCard =>
    obtain ⟨kind, hk⟩ := informed.cardResource (by rw [type]; rfl)
    simp only [demandRemoval, hk]
    split <;> exact ⟨_, rfl⟩
  | addResourceToAnotherCard | addResourceToAnyCard | copyProductionOfCard =>
    exact ⟨_, map_eq_ok.2 ⟨q, Game.player_eq_ok.2 hq, rfl⟩⟩
  | gainResource =>
    obtain ⟨r, hr⟩ := informed.resource (by rw [type]; rfl)
    exact demandGain_answers hq hr
  | destroyOwnPlants =>
    simp only [demandOwnPlants, Game.player_eq_ok.2 hq, ok_bind]
    split <;> exact ⟨_, rfl⟩
  | gainProduction | gainProductionPerCity | gainProductionPerCityOnMars =>
    obtain ⟨r, hr⟩ := informed.resource (by rw [type]; rfl)
    exact demandProduction_answers hq hr _
  | gainProductionPerOwnTag =>
    obtain ⟨r, hr⟩ := informed.resource (by rw [type]; rfl)
    obtain ⟨n, hn⟩ := tagGroups_answers (informed.tags (by rw [type]; rfl)) [q]
    simp only [Game.player_eq_ok.2 hq, ok_bind, hn]
    exact demandProduction_answers hq hr _
  | gainProductionPerOpponentTag =>
    obtain ⟨r, hr⟩ := informed.resource (by rw [type]; rfl)
    obtain ⟨n, hn⟩ := tagGroups_answers (informed.tags (by rw [type]; rfl)) (g.opponentsOf actor)
    simp only [hn, ok_bind]
    exact demandProduction_answers hq hr _
  | gainProductionPerAnyTag =>
    obtain ⟨r, hr⟩ := informed.resource (by rw [type]; rfl)
    obtain ⟨n, hn⟩ := tagGroups_answers (informed.tags (by rw [type]; rfl)) g.players.values
    simp only [hn, ok_bind]
    exact demandProduction_answers hq hr _
  | _ => exact ⟨_, rfl⟩

/-! ### Tiles -/

theorem placeOn_feasible {rs : List Restriction} {ops : Location → List Operation}
    (h : ∀ l ∈ g.board.legalLocations actor rs, g.Admits (ops l)) :
    (i.placeOn g actor rs ops).Feasible g := by
  unfold placeOn
  split
  · trivial
  · exact h

theorem admits_ocean (regular : g.Regular) (hq : g.player? actor = some q)
    (left : g.board.oceansMaxed = false) {l : Location}
    (hl : l ∈ g.board.legalLocations actor (Restriction.forOcean i.locationKind)) :
    g.Admits [.placeOcean l, .raiseTerraformRating actor] := by
  obtain ⟨b, hb⟩ := Game.place_of_allowed (t := .ocean) regular hl
    (.inr ⟨Restriction.ground_forOcean _, .inr (.inr ⟨rfl, left⟩)⟩)
  have first := Game.reaches_placeTile (o := .placeOcean l) regular rfl nofun hb
  exact .cons first (Game.admits_rating first.regular hq (by decide))

theorem demandGreenery_feasible (regular : g.Regular) (hq : g.player? actor = some q) :
    (i.demandGreenery g actor).Feasible g := by
  refine placeOn_feasible fun l hl => ?_
  obtain ⟨b, hb⟩ := Game.place_of_allowed (t := .greenery actor) regular hl
    (.inr ⟨Restriction.ground_forGreenery _, .inl rfl⟩)
  have first := Game.reaches_placeTile (o := .placeGreenery actor l) regular rfl (fun _ => rfl) hb
  refine .cons first ?_
  cases maxed : g.board.oxygenMaxed with
  | true => exact ⟨_, .nil first.regular⟩
  | false =>
    have below : b.oxygenMaxed = false := by
      rw [Board.oxygenMaxed, (Board.place_frame hb).2.1]
      exact maxed
    exact Game.admits_oxygenStep first.regular hq below

theorem demandCity_feasible (regular : g.Regular) : (i.demandCity g actor).Feasible g := by
  refine placeOn_feasible fun l hl => ?_
  obtain ⟨b, hb⟩ := Game.place_of_allowed (t := .city (i.cityKind.getD .regular) actor) regular hl
    (.inl rfl)
  exact ⟨_, Game.reaches_placeTile
    (o := .placeCityTile actor l (i.cityKind.getD .regular)) regular rfl nofun hb⟩

theorem admits_specialTile (regular : g.Regular) {tile : SpecialTile} {l : Location}
    (hl : l ∈ g.board.legalLocations actor (Restriction.forSpecialTile tile)) :
    g.Admits [.placeSpecialTile actor l tile] := by
  obtain ⟨b, hb⟩ := Game.place_of_allowed (t := .special tile actor) regular hl
    (.inr ⟨Restriction.ground_forSpecialTile tile, .inr (.inl rfl)⟩)
  exact ⟨_, Game.reaches_placeTile (o := .placeSpecialTile actor l tile) regular rfl nofun hb⟩

/-! ### Card resources -/

theorem admits_holder (regular : g.Regular) (hq : g.player? actor = some q) {kind : CardResource}
    (hk : i.cardResource = some kind) (hn : 0 ≤ i.count) {except : Option Int}
    {c : PlayedCard} (hc : c ∈ i.holders q except) :
    g.Admits [.changeCardResource actor c.instanceId i.cardResource i.count] := by
  have distinct := (regular.sound.players actor q hq).distinct
  obtain ⟨mem, fits⟩ := List.mem_filter.1 hc
  rw [Bool.and_eq_true, decide_eq_true_eq, hk] at fits
  obtain ⟨holds, -⟩ := fits
  rw [hk]
  exact Operation.Gains.reaches
    (.cardResource hq (Player.played?_of_mem distinct mem) holds hn) regular

/-- What lies on a card lies there because the card can hold it. -/
theorem holder_of_held {p : PlayerId} {n : Int} {kind : CardResource} (regular : g.Regular)
    (hq : g.player? p = some q) (some : 0 < q.held n (some kind)) :
    ∃ c, q.played? n = Option.some c ∧ c.card.supportedResource? = Option.some kind := by
  have sound := regular.sound.players p q hq
  have lies : q.cardResources.getD ⟨n, kind⟩ 0 = q.held n (Option.some kind) := rfl
  rw [Table.getD] at lies
  cases hm : q.cardResources.get? ⟨n, kind⟩ with
  | none =>
    rw [hm] at lies
    exact absurd lies (Int.ne_of_lt some)
  | some m =>
    obtain ⟨-, c, mem, id, holds⟩ := sound.held _ m hm
    have found := Player.played?_of_mem sound.distinct mem
    rw [id] at found
    exact ⟨c, found, holds⟩

theorem admits_removal (regular : g.Regular) {kind : CardResource} (hk : i.cardResource = some kind)
    {t : PlayerId × Int} (ht : t ∈ g.players.entries.flatMap (i.removable actor)) :
    g.Admits [.changeCardResource t.1 t.2 i.cardResource (-min i.count (heldOn g t i.cardResource))] := by
  obtain ⟨⟨p, q⟩, he, ht⟩ := List.mem_flatMap.1 ht
  obtain ⟨c, hc, rfl⟩ := List.mem_map.1 ht
  have hq : g.player? p = some q := Table.get?_eq_some_iff.2 he
  obtain ⟨-, removable⟩ := List.mem_filter.1 hc
  rw [Bool.and_eq_true, decide_eq_true_eq] at removable
  have lies : 0 < q.held c.instanceId i.cardResource := removable.1
  have amount : heldOn g (p, c.instanceId) i.cardResource = q.held c.instanceId i.cardResource := by
    simp only [heldOn, hq, Option.map_some, Option.getD_some]
  rw [amount]
  rw [hk] at lies ⊢
  obtain ⟨d, hd, holds⟩ := holder_of_held regular hq lies
  refine Game.reaches_changeCardResource regular hq hd holds ?_
  show 0 ≤ q.held c.instanceId (some kind) +
    -min i.count (q.held c.instanceId (some kind))
  have := Int.min_le_right i.count (q.held c.instanceId (some kind))
  omega

/-! ### Resources and production -/

theorem admits_plants (regular : g.Regular) {p : PlayerId}
    (hp : p ∈ g.playerIds.filter fun p => 0 < plantsOf g p) :
    g.Admits [.changeResources p (some .plants) (-min i.count (plantsOf g p))] := by
  have some : 0 < plantsOf g p := of_decide_eq_true (List.mem_filter.1 hp).2
  cases hq : g.player? p with
  | none => simp [plantsOf, hq] at some
  | some q =>
    have plants : plantsOf g p = q.balance (Option.some .plants) := by
      simp only [plantsOf, hq, Option.map_some, Option.getD_some]
    rw [plants]
    refine ⟨_, Game.reaches_changeResources regular hq ?_⟩
    have := Int.min_le_right i.count (q.balance (Option.some .plants))
    omega

/-- Production can be raised, and lowered as far as the player can bear it. -/
theorem admits_production (regular : g.Regular) (hq : g.player? actor = some q) {r : Resource} {n : Int}
    (able : n < 0 → q.canReduceProduction (some r) (-n) = true) :
    g.Admits [.changeProduction actor (some r) n] := by
  have floor := (regular.stocked.players actor q hq).production r
  refine ⟨_, Game.reaches_changeProduction regular hq ?_⟩
  by_cases loss : n < 0
  · have := of_decide_eq_true (able loss)
    omega
  · omega

theorem copyOps_admitted (regular : g.Regular) (hq : g.player? actor = some q) {c : Card}
    {os : List Operation} (h : copyOps q actor c = .ok os) : g.Admits os := by
  unfold copyOps at h
  split at h
  · cases h
  next bearable =>
    cases h
    refine Game.reaches_productions c.ownChange regular hq ((by decide : Resource.all.Nodup).filter _) ?_
    intro r hr
    have floor := (regular.stocked.players actor q hq).production r
    have ok := List.find?_eq_none.1 bearable r (List.mem_filter.1 hr).1
    by_cases loss : c.ownChange r < 0
    · have able : q.canReduceProduction (some r) (-c.ownChange r) = true := by simpa [loss] using ok
      have := of_decide_eq_true able
      omega
    · omega

/-! ### Every impact -/

/-- **What an impact that is ready demands can be had.** -/
theorem demand_feasible (regular : g.Regular) (hq : g.player? actor = some q)
    (ready : i.ready (g.kindAt actor source) = true) (h : i.demand g actor source = .ok d) :
    d.Feasible g := by
  have informed := informed_of_ready ready
  unfold Impact.ready at ready
  cases demand_makes h with
  | skip | refuse | choose => trivial
  | temperature _ below => exact Game.admits_raiseTemperature regular hq below
  | oxygen _ below => exact Game.admits_oxygenStep regular hq below
  | rating type =>
    simp only [type, decide_eq_true_eq] at ready
    exact Game.admits_rating regular hq ready
  | ratingPerTag type counted =>
    simp only [type, countable, Bool.and_eq_true, decide_eq_true_eq] at ready
    obtain ⟨count, -, per⟩ := ready
    have groups := tagGroups_nonneg (Int.le_of_lt per) counted
    exact Game.admits_rating regular hq (Int.mul_nonneg count groups)
  | ocean _ left => exact placeOn_feasible fun l hl => admits_ocean regular hq left hl
  | greenery => exact demandGreenery_feasible regular hq
  | city => exact demandCity_feasible regular
  | specialTile => exact placeOn_feasible fun l hl => admits_specialTile regular hl
  | cards type =>
    simp only [type, decide_eq_true_eq] at ready
    obtain ⟨g', -, drawn, -⟩ := Game.reaches_drawCards regular hq
      (n := min i.count (g.deck.length + g.discard.length)) (by omega) (Int.min_le_right _ _)
    exact ⟨g', drawn⟩
  | sameCard type here =>
    simp only [type, Bool.and_eq_true, decide_eq_true_eq] at ready
    obtain ⟨⟨holds, same⟩, hn⟩ := ready
    obtain ⟨kind, hk⟩ := Option.isSome_iff_exists.1 holds
    obtain ⟨_, q, c, here', hq, hc, holds⟩ := Game.kindAt_eq_some.1 hk
    cases here.symm.trans here'
    rw [same, hk]
    exact Operation.Gains.reaches (.cardResource hq hc holds hn) regular
  | ownCard type hq =>
    obtain ⟨kind, hk⟩ := informed.cardResource (by obtain type | type := type <;> rw [type] <;> rfl)
    have hn : 0 ≤ i.count := by
      obtain type | type := type <;>
        · simp only [type, Bool.and_eq_true, decide_eq_true_eq] at ready
          exact ready.2
    rintro t ht os ⟨⟩
    obtain ⟨c, hc, rfl⟩ := List.mem_map.1 ht
    exact admits_holder regular hq hk hn hc
  | removal type =>
    obtain ⟨kind, hk⟩ := informed.cardResource (by rw [type]; rfl)
    rintro t ht os ⟨⟩
    exact admits_removal regular hk ht
  | gain type hq enough =>
    obtain ⟨r, hr⟩ := informed.resource (by rw [type]; rfl)
    rw [hr] at enough ⊢
    exact ⟨_, Game.reaches_changeResources regular hq enough⟩
  | gainPerCity type =>
    obtain ⟨r, hr⟩ := informed.resource (by obtain type | type := type <;> rw [type] <;> rfl)
    have hn : 0 ≤ i.count := by
      obtain type | type := type <;>
        · simp only [type, Bool.and_eq_true, decide_eq_true_eq] at ready
          exact ready.2
    rw [hr]
    exact Operation.Gains.reaches
      (.resources hq (Int.mul_nonneg hn (Int.natCast_nonneg _))) regular
  | ownPlants _ hq enough =>
    refine ⟨_, Game.reaches_changeResources regular hq ?_⟩
    omega
  | anyPlants => exact fun p hp => admits_plants regular hp
  | production type able =>
    obtain ⟨r, hr⟩ := informed.resource (ImpactType.needsResource_of_productive type)
    rw [hr] at able ⊢
    refine admits_production regular hq fun loss => ?_
    obtain ⟨q', hq', bears⟩ := able loss
    cases hq.symm.trans hq'
    exact bears
  | reduction type =>
    obtain ⟨r, hr⟩ := informed.resource (by rw [type]; rfl)
    intro p hp
    obtain ⟨⟨p, q⟩, he, rfl⟩ := List.mem_map.1 hp
    obtain ⟨mem, able⟩ := List.mem_filter.1 he
    have hq : g.player? p = some q := Table.get?_eq_some_iff.2 mem
    rw [hr] at able ⊢
    exact ⟨_, Game.reaches_changeProduction regular hq (of_decide_eq_true able)⟩
  | copy _ hq =>
    intro t ht os hos
    dsimp only at hos
    split at hos
    · exact copyOps_admitted regular hq hos
    · cases hos
      exact ⟨g, .nil regular⟩
  | discount => exact Operation.Gains.reaches (.nextCardEffect hq) regular

/-- What an impact that is ready demands is worked out, and can be had. -/
theorem demand_attainable (regular : g.Regular) (hq : g.player? actor = some q)
    (ready : i.ready (g.kindAt actor source) = true) :
    i.Attainable g (i.demand g actor source) := by
  obtain ⟨d, hd⟩ := demand_answers (informed_of_ready ready) hq source
  exact ⟨d, hd, demand_feasible regular hq ready hd⟩

end Impact

end Terraforming
