import Terraforming.Proofs.Board.View
import Terraforming.Proofs.Game.Owners
import Terraforming.Proofs.Turn.Accounts
import Terraforming.Proofs.Turn.Decisions
import Terraforming.Proofs.Turn.Replay
import Terraforming.Proofs.Turn.Resumption

/-!
# Tiles go where they may

A tile that is put down looks only whether the space is free (`Board.place`).  That it lies where the
rules of its kind want it is up to the resolution, which asks the board of the moment: an impact that
places a tile has a list of restrictions (`Impact.restrictions`), and the answers to it are the locations
that pass them.

* `Impact.Places` — which operation puts down the tile of an impact, where, and which tile that is;
* `Impact.Does.places` — an impact that places a tile; no other operation of it, and none of any other
  impact or effect, does;
* `Game.placements_allowed` — every turn, and impacts that are taken up again; and the decision where a
  tile goes lists just the locations that are allowed.
-/

namespace Terraforming

/-! ## Tiles of impacts -/

/-- The types of the operations that put down a tile. -/
def OperationType.places : OperationType → Bool
  | placeCityTile | placeGreenery | placeSpecialTile | placeOcean => true
  | _ => false

namespace Impact

/-- The default restrictions of the tile that an impact places. -/
def restrictions (i : Impact) : List Restriction :=
  match i.type, i.specialTile with
  | .placeOcean, _ => Restriction.forOcean i.locationKind
  | .placeGreenery, _ => Restriction.forGreenery i.locationKind
  | .placeCity, _ => Restriction.forCity (i.cityKind.getD .regular)
  | .placeSpecialTile, some tile => Restriction.forSpecialTile tile
  | _, _ => []

/-- The operation puts down the tile of an impact that `p` causes; unless it is an ocean, the tile is
owned by `p`. -/
inductive Places (i : Impact) (p : PlayerId) : Operation → Location → Tile → Prop where
  | ocean {l : Location} : i.type = .placeOcean → Places i p (.placeOcean l) l .ocean
  | greenery {l : Location} : i.type = .placeGreenery →
      Places i p (.placeGreenery p l) l (.greenery p)
  | city {l : Location} {kind : CityKind} : i.type = .placeCity → kind = i.cityKind.getD .regular →
      Places i p (.placeCityTile p l kind) l (.city kind p)
  | special {l : Location} {tile : SpecialTile} : i.type = .placeSpecialTile →
      i.specialTile = some tile → Places i p (.placeSpecialTile p l tile) l (.special tile p)

variable {i : Impact} {g : Game} {p : PlayerId} {source : Option Int} {d : Demand i}
  {answer : List Choice} {o : Operation} {ops : List Operation} {more : List Impact} {l : Location}
  {t : Tile}

theorem Places.lays (h : i.Places p o l t) : o.Lays l t := by
  cases h with
  | ocean => exact .ocean rfl rfl
  | greenery => exact .greenery rfl rfl rfl
  | city => exact .city rfl rfl rfl rfl
  | special => exact .special rfl rfl rfl rfl

theorem Places.command (h : i.Places p o l t) : o.command? = .ok (.placeTile l t) := by
  cases h <;> rfl

/-- Where the operations go on after the tile. -/
def GoesOn (i : Impact) (p : PlayerId) (l : Location) (ops : List Operation) : Prop :=
  ∃ o t rest, ops = o :: rest ∧ i.Places p o l t ∧ ∀ o' ∈ rest, o'.type.places = false

theorem places_oxygenStep : ∀ o ∈ oxygenStep p, o.type.places = false :=
  List.forall_mem_cons.2 ⟨rfl, List.forall_mem_singleton.2 rfl⟩

/-- **An impact that places a tile** asks for a location that passes its restrictions, if there is
anything to do. -/
theorem demand_tile (type : i.type.question? = some .location)
    (hd : i.demand g p source = .ok d) :
    d = .skip ∨ ∃ f, d = i.placeOn g p i.restrictions f ∧ ∀ l, i.GoesOn p l (f l) := by
  cases demand_makes hd with
  | skip => exact .inl rfl
  | refuse other => exact absurd type other
  | ocean ht =>
    rw [restrictions, ht]
    exact .inr ⟨_, rfl, fun l => ⟨_, _, _, rfl, .ocean ht, List.forall_mem_singleton.2 rfl⟩⟩
  | greenery ht =>
    rw [restrictions, ht]
    refine .inr ⟨_, rfl, fun l => ⟨_, _, _, rfl, .greenery ht, ?_⟩⟩
    split
    · exact List.forall_mem_nil _
    · exact places_oxygenStep
  | city ht =>
    rw [restrictions, ht]
    exact .inr ⟨_, rfl, fun l => ⟨_, _, _, rfl, .city ht rfl, List.forall_mem_nil _⟩⟩
  | specialTile ht named =>
    rw [restrictions, ht, named]
    exact .inr ⟨_, rfl, fun l => ⟨_, _, _, rfl, .special ht named, List.forall_mem_nil _⟩⟩
  | production ht => cases type.symm.trans (ImpactType.question?_of_productive ht)
  | ownCard ht | gainPerCity ht => obtain ht | ht := ht <;> rw [ht] at type <;> cases type
  | _ ht =>
    rw [ht] at type
    cases type

theorem allows_of_mem_legalLocations {b : Board} {rs : List Restriction}
    (h : l ∈ b.legalLocations p rs) : b.allows p l rs = true :=
  (List.mem_filter.1 h).2

/-- The tile of an impact goes first, where it is allowed. -/
theorem Does.places (does : i.Does p source g answer ops more)
    (type : i.type.question? = some .location) :
    ∃ o l t rest, ops = o :: rest ∧ i.Places p o l t ∧ g.board.allows p l i.restrictions = true ∧
      ∀ o' ∈ rest, o'.type.places = false := by
  obtain ⟨d, hd, yields⟩ := does
  obtain rfl | ⟨f, rfl, goes⟩ := demand_tile type hd
  · cases yields
  · obtain ⟨l, legal, rfl⟩ := placeOn_yields yields
    obtain ⟨o, t, rest, same, places, others⟩ := goes l
    exact ⟨o, l, t, rest, same, places, allows_of_mem_legalLocations legal, others⟩

/-- Other impacts place no tile. -/
theorem places_emits {t : ImpactType} (other : t.question? ≠ some .location) :
    ∀ type ∈ t.emits, type.places = false := by
  revert other
  cases t <;> decide

theorem Does.places_of_ne (does : i.Does p source g answer ops more)
    (other : i.type.question? ≠ some .location) : ∀ o ∈ ops, o.type.places = false := by
  obtain ⟨d, hd, yields⟩ := does
  exact fun o ho => places_emits other o.type (demand_emits hd ops yields.leads o ho)

/-- **The decision where a tile goes** lists the locations that are allowed. -/
theorem locations_of_waiting {b : Board} {ls : List Location} (hd : i.demand g p source = .ok d)
    (hw : d.meet b [] = .waiting (.locations ls)) :
    i.type.question? = some .location ∧ ls = g.board.legalLocations p i.restrictions ∧ ls ≠ [] := by
  obtain ⟨f, rfl⟩ : ∃ f, d = .place ls f := by
    cases d with
    | place ls' f =>
      cases hw
      exact ⟨f, rfl⟩
    | _ => cases hw
  have type : i.type.question? = some .location := by
    obtain none | location := demand_asks hd
    · cases none
    · exact location.symm
  refine ⟨type, ?_⟩
  obtain skip | ⟨f', place, -⟩ := demand_tile type hd
  · cases skip
  · unfold placeOn at place
    split at place
    · cases place
    next some =>
      cases place
      exact ⟨rfl, some⟩

end Impact

/-! ## Operations of turns -/

section

variable (g₀ : Game) (p : PlayerId) (Printed : Impact → Prop)

/-- If the operation puts down a tile in the game `h`, it is that of an impact of the turn from `g₀`, and
it is allowed there. -/
def Game.Heeds (h : Game) (o : Operation) : Prop :=
  o.type.places = true → ∃ i l t, g₀.Origin Printed i ∧ i.Places p o l t ∧
    h.board.allows p l i.restrictions = true

end

namespace Game

variable {g₀ g g' h h' : Game} {p : PlayerId} {cs : List Choice} {Printed : Impact → Prop}
  {o : Operation} {os : List Operation} {a : Attempt} {l : Location} {t : Tile}

theorem heeds_of_places (quiet : o.type.places = false) : g₀.Heeds p Printed h o :=
  fun places => absurd (places.symm.trans quiet) nofun

theorem heeds_preliminaries (preliminaries : Operation.Preliminaries os)
    (accepted : g.executeAll os = .accepted g') : g.Trail (g₀.Heeds p Printed) os := by
  refine trail_of_forall accepted fun h o ho => heeds_of_places ?_
  have preliminary := preliminaries o ho
  unfold Operation.isPreliminary at preliminary
  revert preliminary
  cases o.type <;> decide

theorem heeds_impact {i : Impact} {source : Option Int} {answer : List Choice}
    {ops : List Operation} {more : List Impact}
    (origin : g₀.Origin Printed i ∨ i.type = .gainResource)
    (does : i.Does p source g answer ops more) (accepted : g.executeAll ops = .accepted g') :
    g.Trail (g₀.Heeds p Printed) ops := by
  by_cases type : i.type.question? = some .location
  · have printed : g₀.Origin Printed i := origin.resolve_right fun gain => by
      rw [gain] at type
      cases type
    obtain ⟨o, l, t, rest, rfl, places, allowed, others⟩ := does.places type
    obtain ⟨g₁, first, later⟩ := executeAll_cons_eq_accepted.1 accepted
    exact .cons (fun _ => ⟨i, l, t, printed, places, allowed⟩) first
      (trail_of_forall later fun h o' ho' => heeds_of_places (others o' ho'))
  · exact trail_of_forall accepted fun h o ho => heeds_of_places (does.places_of_ne type o ho)

/-- **Every operation** of a turn heeds the rules for tiles. -/
theorem heeds_accounts :
    Impact.Accounts g₀ p cs Printed (fun _ => True) (Trail (g₀.Heeds p Printed)) where
  nil := .nil
  append told accepted later := told.append accepted later
  keeps _ _ _ := trivial
  impact _ origin does _ accepted := heeds_impact origin does accepted
  reactions {g} _ i _ accepted :=
    heeds_preliminaries (g.preliminaries_reactionsToImpact p i) accepted

theorem Acts.heeds (acts : g.Acts p cs Printed a) (hg : a.game? = some g') :
    g.Trail (g.Heeds p (Impact.Below Printed)) a.operations :=
  heeds_accounts.begins acts.begins hg trivial
    (fun underway => heeds_preliminaries underway.preliminaries underway.leads)
    fun _ hi => Impact.throughout_below hi

/-- The tile lies there afterwards. -/
theorem status_of_places {i : Impact} (places : i.Places p o l t)
    (accepted : h.execute o = .accepted h') : h'.board.status l = t := by
  obtain ⟨c, g₁, read, carried, rfl⟩ := execute_eq_accepted.1 accepted
  cases places.command.symm.trans read
  obtain ⟨b, placed, rfl⟩ := map_eq_ok.1 carried
  exact Board.status_place_self places.lays.built placed

theorem Acts.pends (acts : g.Acts p cs Printed a) : a.Pends p := by
  cases acts with
  | turn h => exact (takeTurn_resumes g _).pends cs a h
  | resumption h => exact Impact.resolve_pends h

/-- **Tiles go where they may.**  When a turn puts down a tile, it is the tile of an impact of the turn,
and the restrictions of the impact allow it on the board of that moment; it then lies there, owned by the
player whose turn it is unless it is an ocean.  And the decision where a tile goes lists the locations
that are allowed on the board that the turn leads to, each once and in the order of the board. -/
theorem placements_allowed (acts : g.Acts p cs Printed a) (hg : a.game? = some g') :
    (∀ pre o post, pre ++ o :: post = a.operations → o.type.places = true →
      ∃ h h' i l t, g.executeAll pre = .accepted h ∧ h.execute o = .accepted h' ∧
        g.Origin (Impact.Below Printed) i ∧ i.Places p o l t ∧
        h.board.allows p l i.restrictions = true ∧ h'.board.status l = t) ∧
    ∀ ops remaining pending source ls, a = .waiting ops remaining pending source g' →
      pending.options = .locations ls →
        pending.impact.type.question? = some .location ∧
        ls = g'.board.locations.filter (fun l => g'.board.allows p l pending.impact.restrictions) ∧
        ls.Nodup ∧ ls ≠ [] := by
  constructor
  · intro pre o post split placing
    obtain ⟨h, h', leads, accepted, heeds⟩ := (acts.heeds hg).meets split
    obtain ⟨i, l, t, origin, places, allowed⟩ := heeds placing
    exact ⟨h, h', i, l, t, leads, accepted, origin, places, allowed,
      status_of_places places accepted⟩
  · rintro ops remaining pending source ls rfl listed
    obtain ⟨is, d, -, hd, hw⟩ := acts.pends
    rw [listed] at hw
    obtain ⟨type, rfl, some⟩ := Impact.locations_of_waiting hd hw
    exact ⟨type, rfl, g'.board.nodup_legalLocations p _, some⟩

/-- In `newcomer` the first city goes down where it may. -/
theorem placements_allowed_newcomer :
    ∃ (a : Attempt) (g' : Game) (i : Impact) (l : Location) (t : Tile),
      newcomer.Acts 1 [.at_ (.onMars ⟨1, -2⟩)] (· ∈ [.placeCity]) a ∧ a.game? = some g' ∧
      a.operations.head? = some (.placeCityTile 1 (.onMars ⟨1, -2⟩) .regular) ∧
      i.Places 1 (.placeCityTile 1 (.onMars ⟨1, -2⟩) .regular) l t ∧
      newcomer.board.allows 1 l i.restrictions = true := by
  obtain ⟨ops, g', resolved, first⟩ : ∃ ops g',
      newcomer.resolve 1 [.placeCity] [.at_ (.onMars ⟨1, -2⟩)] = .ok (.complete ops g') ∧
      ops.head? = some (.placeCityTile 1 (.onMars ⟨1, -2⟩) .regular) := by
    refine ⟨_, _, Impact.resolve_settled (i := .placeCity) rfl rfl rfl
      (Impact.settleBonuses_performed (i := .gainResource .plants 2) rfl rfl rfl) rfl, ?_⟩
    decide +kernel
  have acts : newcomer.Acts 1 [.at_ (.onMars ⟨1, -2⟩)] (· ∈ [.placeCity]) (.complete ops g') :=
    .resumption resolved
  obtain ⟨post, rfl⟩ := List.head?_eq_some_iff.1 first
  obtain ⟨h, h', i, l, t, start, -, -, places, allowed, -⟩ :=
    (placements_allowed acts rfl).1 [] _ post rfl rfl
  cases start
  exact ⟨_, g', i, l, t, acts, rfl, first, places, allowed⟩

end Game

end Terraforming
