import Terraforming.Proofs.Service.Dealing
import Terraforming.Proofs.Service.Presentable

/-!
# Seats

What a seat asks for: cards of a catalog, balances and production.  A game can only be set up for
players who owe nothing.

* `Seat.Known`, `Seat.Solvent`, `Seat.Productive` — the catalog lists the cards, no balance starts
  below nothing, and no production below its floor;
* `Service.seated_cases` — seating a player breaks down exactly when the cards are known and a balance
  starts below nothing;
* `Service.newGame_presentable` — with productive seats, a new game can be presented.
-/

namespace Terraforming

/-! ## What a seat asks for -/

namespace Seat

/-- The player of a seat before any card is dealt. -/
def bare (s : Seat) (solo : Bool) : Player :=
  { id := s.player
    resources := PlayerSetup.writeAll .zero (s.resources ++ [(.megacredits, (s.megacredits : Int))])
    production := PlayerSetup.writeAll .zero s.production
    rating := s.rating.getD (if solo then soloStartingRating else startingRating) }

/-- No balance starts below nothing. -/
def Solvent (s : Seat) : Prop := ∀ r, 0 ≤ (s.bare true).balance (some r)

/-- No production starts below its floor. -/
def Productive (s : Seat) (solo : Bool) : Prop :=
  ∀ r, (s.bare solo).productionFloor (some r) ≤ (s.bare solo).productionOf (some r)

/-- The catalog lists all cards that the seat names. -/
def Known (c : Catalog) (s : Seat) : Prop := ∀ name ∈ s.named, (c.get? name).isSome = true

end Seat

/-! ## Setting players up -/

/-- Cards that come into play change neither balances nor production. -/
theorem Player.economy_putAllIntoPlay (cs : List Card) (q : Player) :
    (cs.foldl Player.putIntoPlay q).resources = q.resources ∧
      (cs.foldl Player.putIntoPlay q).production = q.production ∧
      (cs.foldl Player.putIntoPlay q).rating = q.rating ∧
      (cs.foldl Player.putIntoPlay q).cardResources = q.cardResources := by
  induction cs generalizing q with
  | nil => exact ⟨rfl, rfl, rfl, rfl⟩
  | cons c cs ih => exact ih (q.putIntoPlay c)

/-- A pool has no entry below nothing exactly when it has no amount below nothing. -/
theorem find?_negative_eq_none {pool : Pool} :
    (pool.entries.find? fun e => e.2 < 0) = none ↔ ∀ r, 0 ≤ pool.amount r := by
  rw [List.find?_eq_none]
  constructor
  · intro none r
    rw [Pool.amount, Table.getD]
    cases hn : pool.get? r with
    | none => exact Int.le_refl 0
    | some n => simpa using none (r, n) (Table.get?_eq_some_iff.1 hn)
  · rintro all ⟨r, n⟩ he
    have held := all r
    rw [Pool.amount, Table.getD, Table.get?_eq_some_iff.2 he] at held
    simpa using held

/-- Writing amounts into a pool leaves its entries there. -/
theorem PlayerSetup.isSome_writeAll {es : List (Resource × Int)} {pool : Pool} {r : Resource}
    (h : (pool.get? r).isSome = true) : ((writeAll pool es).get? r).isSome = true := by
  induction es generalizing pool with
  | nil => exact h
  | cons e es ih =>
    refine ih ?_
    rw [Table.get?_insert]
    split
    · rfl
    · exact h

namespace Service

variable {c : Catalog} {solo : Bool} {s : Seat} {names : List String} {q : Player}

theorem resolve_cases (c : Catalog) (names : List String) :
    ((∀ name ∈ names, (c.get? name).isSome = true) ∧ ∃ cards, resolve c names = .ok cards) ∨
      ¬(∀ name ∈ names, (c.get? name).isSome = true) ∧
        ∃ r, resolve c names = .error (.rejected r) := by
  cases h : c.resolve names with
  | ok cards =>
    refine .inl ⟨fun name hn => ?_, cards, by rw [resolve, h]; rfl⟩
    obtain ⟨d, -, hd⟩ := exists_right_of_forall₂ (mapM_eq_ok.1 h) hn
    unfold Catalog.byName at hd
    split at hd
    next found => rw [found]; rfl
    next => cases hd
  | error message =>
    refine .inr ⟨fun all => ?_, .unresolved message, by rw [resolve, h]; rfl⟩
    obtain ⟨cards, hc⟩ := mapM_total (f := c.byName) fun name hn => by
      obtain ⟨d, hd⟩ := Option.isSome_iff_exists.1 (all name hn)
      exact ⟨d, by rw [Catalog.byName, hd]⟩
    cases h.symm.trans hc

/-- The starting position that a seat stands for, with its cards. -/
def setupOf (solo : Bool) (s : Seat) (hand played : List Card) : PlayerSetup :=
  { id := s.player
    solo
    resources := s.resources
    megacredits := some (s.megacredits : Int)
    production := s.production
    hand
    played
    rating := s.rating }

theorem seated_of_resolved (solo : Bool) {hand played : List Card} (hh : resolve c s.hand = .ok hand)
    (hp : resolve c s.played = .ok played) :
    seated c solo s = (setupOf solo s hand played).player.mapError fun m => .ofFault (.misuse m) := by
  simp only [seated, hh, hp, ok_bind]
  rfl

/-- Whoever owes nothing can be set up. -/
theorem player_setupOf (solo : Bool) (s : Seat) (hand played : List Card) :
    (s.Solvent ∧ (setupOf solo s hand played).player =
        .ok (played.foldl Player.putIntoPlay { s.bare solo with hand })) ∨
      ¬s.Solvent ∧ ∃ m, (setupOf solo s hand played).player = .error m := by
  have resources := (Player.economy_putAllIntoPlay played { s.bare solo with hand }).1
  have solvency : ((s.bare solo).resources.entries.find? fun e => e.2 < 0) = none ↔ s.Solvent :=
    find?_negative_eq_none
  rw [← resources] at solvency
  by_cases solvent : s.Solvent
  · refine .inl ⟨solvent, bind_eq_ok.2 ⟨_, rfl, ?_⟩⟩
    split
    next found => cases found.symm.trans (solvency.2 solvent)
    next => rfl
  · refine .inr ⟨solvent, ?_⟩
    cases built : (setupOf solo s hand played).player with
    | error m => exact ⟨m, rfl⟩
    | ok q =>
      obtain ⟨p, entered, rest⟩ := bind_eq_ok.1 built
      cases entered
      split at rest
      · cases rest
      next found => exact absurd (solvency.1 found) solvent

/-- Seating a player: a name that is not known is rejected, a balance below nothing breaks the answer,
and otherwise there is a player. -/
theorem seated_cases (c : Catalog) (solo : Bool) (s : Seat) :
    (¬s.Known c ∧ ∃ r, seated c solo s = .error (.rejected r)) ∨
      (s.Known c ∧ ¬s.Solvent ∧ ∃ e, seated c solo s = .error (.broken e)) ∨
      (s.Known c ∧ s.Solvent ∧ ∃ q, seated c solo s = .ok q) := by
  have known : s.Known c ↔ (∀ name ∈ s.hand, (c.get? name).isSome = true) ∧
      ∀ name ∈ s.played, (c.get? name).isSome = true := List.forall_mem_append
  rcases resolve_cases c s.hand with ⟨handKnown, hand, hh⟩ | ⟨unknown, r, hr⟩
  · rcases resolve_cases c s.played with ⟨playedKnown, played, hp⟩ | ⟨unknown, r, hr⟩
    · have seats := seated_of_resolved solo hh hp
      rcases player_setupOf solo s hand played with ⟨solvent, hq⟩ | ⟨owing, m, hm⟩
      · exact .inr (.inr ⟨known.2 ⟨handKnown, playedKnown⟩, solvent, _, by rw [seats, hq]; rfl⟩)
      · exact .inr (.inl ⟨known.2 ⟨handKnown, playedKnown⟩, owing, _, by rw [seats, hm]; rfl⟩)
    · refine .inl ⟨fun all => unknown (known.1 all).2, r, ?_⟩
      simp only [seated, hh, hr, ok_bind, error_bind]
  · refine .inl ⟨fun all => unknown (known.1 all).1, r, ?_⟩
    simp only [seated, hr, error_bind]

/-- A player who is seated has what the seat asks for, and cards of the catalog. -/
theorem seated_spec (h : seated c solo s = .ok q) :
    ∃ hand played, (∀ d ∈ hand ++ played, d ∈ c.cards) ∧
      (setupOf solo s hand played).player = .ok q ∧
      q = played.foldl Player.putIntoPlay { s.bare solo with hand } := by
  obtain ⟨hand, hh, rest⟩ := bind_eq_ok.1 h
  obtain ⟨played, hp, -⟩ := bind_eq_ok.1 rest
  have seats := seated_of_resolved solo hh hp
  refine ⟨hand, played,
    List.forall_mem_append.2 ⟨(resolve_eq_ok hh).2, (resolve_eq_ok hp).2⟩, ?_⟩
  rcases player_setupOf solo s hand played with ⟨-, hq⟩ | ⟨-, m, hm⟩
  · rw [seats, hq] at h
    cases h
    exact ⟨hq, rfl⟩
  · rw [seats, hm] at h
    cases h

/-- A seat with built-in cards and no production below its floor gives a player of an opening. -/
theorem seated_opening (cards : ∀ d ∈ c.cards, d.BuiltIn) (productive : s.Productive solo)
    (h : seated c solo s = .ok q) : q.Opening ∧ q.Purse := by
  obtain ⟨hand, played, among, setup, rfl⟩ := seated_spec h
  obtain ⟨resources, production, rating, cardResources⟩ :=
    Player.economy_putAllIntoPlay played { s.bare solo with hand }
  refine ⟨⟨⟨_, setup, fun d hd => cards d (among d (List.mem_append_left _ hd)),
    fun d hd => cards d (among d (List.mem_append_right _ hd))⟩, fun r => ?_, fun h n hn => ?_⟩, ?_⟩
  · rw [Player.productionFloor, Player.productionOf, production, rating]
    exact productive r
  · rw [cardResources] at hn
    cases hn
  · rw [Player.Purse, resources]
    exact PlayerSetup.isSome_writeAll rfl

end Service

/-! ## New games -/

/-- Every card of a built-in catalog is built in. -/
theorem Catalog.builtIn_of_mem {c : Catalog} (builtin : c ∈ Catalog.builtin) {d : Card}
    (hd : d ∈ c.cards) : d.BuiltIn := by
  refine ⟨d, ?_, Card.beq_self d⟩
  simp only [Catalog.builtin, List.mem_cons, List.not_mem_nil, or_false] at builtin
  rcases builtin with rfl | rfl
  · exact List.mem_append_left _ hd
  · exact hd

/-- Every card of a built-in catalog can be scored. -/
theorem Card.BuiltIn.scorable {d : Card} (builtIn : d.BuiltIn) : d.normal.scorable = true := by
  obtain ⟨e, he, same⟩ := builtIn
  rw [Card.normal_eq_of_beq same]
  exact Card.scorable_corporate e he

namespace Service

variable {s : Service} {r : NewGame} {h : Hosted} {c : Catalog}

/-- A game is created with a built-in catalog if the usual one is built in. -/
theorem catalogFor_builtin (usual : s.usual ∈ Catalog.builtin) (hc : s.catalogFor r = .ok c) :
    c ∈ Catalog.builtin := by
  unfold catalogFor at hc
  split at hc
  · cases hc
    exact usual
  · split at hc
    next found =>
      cases hc
      exact List.mem_of_find?_eq_some found
    next => cases hc

/-- The cards of a new game are of its catalog. -/
theorem mem_catalog_of_newGame (made : s.newGame r = .ok h) :
    ∀ d ∈ h.game.cards, d ∈ h.catalog.cards := by
  obtain ⟨qs, -, hq, hg⟩ := newGame_eq_ok made
  obtain ⟨players, table, dealt⟩ := Game.new_eq_ok hg
  have held := (cards_of_seats hq).2
  intro d hd
  simp only [Game.cards, List.mem_append, List.mem_flatMap] at hd
  rcases hd with (⟨q, hq, hd⟩ | hd) | hd
  · exact held d (List.mem_flatMap.2 ⟨q, players.mem_iff.1 hq, List.mem_append.2 hd⟩)
  · rw [dealt] at hd
    exact List.mem_of_mem_filter ((Generator.shuffle_perm _ _).mem_iff.1 hd)
  · rw [dealt] at hd
    cases hd

theorem newGame_cards (usual : s.usual ∈ Catalog.builtin) (made : s.newGame r = .ok h) :
    ∀ d ∈ h.game.cards, d.BuiltIn := by
  obtain ⟨qs, hc, -⟩ := newGame_eq_ok made
  exact fun d hd =>
    Catalog.builtIn_of_mem (catalogFor_builtin usual hc) (mem_catalog_of_newGame made d hd)

theorem newGame_inventory (usual : s.usual ∈ Catalog.builtin) (made : s.newGame r = .ok h) :
    ∀ d ∈ h.game.inventory, d.scorable = true := by
  intro d hd
  obtain ⟨e, he, rfl⟩ := List.mem_map.1 (Multiset.mem_coe.1 hd)
  exact (newGame_cards usual made e he).scorable

/-- A new game can be scored, whatever the seats ask for. -/
theorem newGame_scores (usual : s.usual ∈ Catalog.builtin) (made : s.newGame r = .ok h) :
    ∃ ns, h.game.scores = .ok ns := by
  obtain ⟨qs, -, -, hg⟩ := newGame_eq_ok made
  obtain ⟨-, players, dealt⟩ := Game.new_eq_ok hg
  have unfunded : h.game.funded.keys = [] := by rw [dealt]; rfl
  refine (Game.scorable_of_inventory (newGame_inventory usual made) fun n hn => ?_).scores_answers
  rw [unfunded] at hn
  cases hn

/-- With productive seats, a new game can be presented, and go on so. -/
theorem newGame_presentable (usual : s.usual ∈ Catalog.builtin) (made : s.newGame r = .ok h)
    (productive : ∀ seat ∈ r.seats, seat.Productive (r.seats.length = 1)) : h.game.Presentable := by
  obtain ⟨qs, hc, hq, hg⟩ := newGame_eq_ok made
  obtain ⟨players, table, dealt⟩ := Game.new_eq_ok hg
  have builtIn : ∀ d ∈ h.catalog.cards, d.BuiltIn := fun d hd =>
    Catalog.builtIn_of_mem (catalogFor_builtin usual hc) hd
  have seated : ∀ p q, h.game.player? p = some q → q.Opening ∧ q.Purse := by
    intro p q there
    have mem : q ∈ qs := players.mem_iff.1 (List.mem_map.2 ⟨_, Table.get?_eq_some_iff.1 there, rfl⟩)
    obtain ⟨seat, hs, sits⟩ := exists_left_of_forall₂ (mapM_eq_ok.1 hq) mem
    exact seated_opening builtIn (productive seat hs) sits
  have board : h.game.board = .standard := by rw [dealt]
  have deck : ∀ d ∈ h.game.deck, d.BuiltIn := fun d hd =>
    newGame_cards usual made d (List.mem_append_left _ (List.mem_append_right _ hd))
  have opening : h.game.Opening := by
    refine ⟨board, fun p q there => (seated p q there).1, deck, ?_, ?_, ?_⟩
    all_goals rw [dealt]
    exact fun d hd => nomatch hd
  exact ⟨opening.regular, ⟨fun p q there => (seated p q there).2, board ▸ Board.labelled_standard⟩,
    newGame_inventory usual made⟩

end Service

end Terraforming
