import Terraforming.Proofs.Game.Opening
import Terraforming.Proofs.Turn.Inventory
import Terraforming.Service.Basic

/-!
# Dealing a catalog

A new game has every card of its catalog: those that the seats name are in the hands and in play, and
the rest are shuffled into the deck.  When no card is named twice, each is there once; and since play
only moves cards about, it stays so.

* `Catalog.nodup_names` — a catalog has no two cards of one name;
* `Service.newGame_deals` — the cards of a new game are those of the catalog, in some order;
* `Game.exists_place` — a card that is there once is in just one place;
* `Service.cards_conserved` — no card is lost or doubled, by an operation or by any run of play.
-/

namespace Terraforming

/-! ## Catalogs -/

/-- Cards without errors have names of their own, and none of those seen before. -/
theorem nodup_of_catalogErrorsAfter {seen : List String} {cards : List Card}
    (h : catalogErrorsAfter seen cards = .ok []) :
    (cards.map (·.name)).Nodup ∧ ∀ c ∈ cards, c.name ∉ seen := by
  induction cards generalizing seen with
  | nil => exact ⟨.nil, fun c hc => nomatch hc⟩
  | cons c cs ih =>
    rw [catalogErrorsAfter] at h
    obtain ⟨own, -, h⟩ := bind_eq_ok.1 h
    obtain ⟨rest, hr, h⟩ := bind_eq_ok.1 h
    have none : (if c.name ∈ seen then [CatalogError.duplicateName c.name] else []) ++
        own.map (.cardDefect c.name) ++ rest = [] := Except.ok.inj h
    simp only [List.append_eq_nil_iff] at none
    obtain ⟨⟨unseen, -⟩, rfl⟩ := none
    have new : c.name ∉ seen := fun mem => by simp [mem] at unseen
    obtain ⟨nodup, later⟩ := ih hr
    constructor
    · refine List.nodup_cons.2 ⟨fun again => ?_, nodup⟩
      obtain ⟨d, hd, same⟩ := List.mem_map.1 again
      exact later d hd (same ▸ List.mem_cons_self)
    · intro d hd
      rcases List.mem_cons.1 hd with rfl | hd
      · exact new
      · exact fun mem => later d hd (List.mem_cons_of_mem _ mem)

namespace Catalog

variable {c : Catalog} {d d' : Card} {names : List String} {cards : List Card}

/-- No two cards of a catalog have the same name. -/
theorem nodup_names (c : Catalog) : c.names.Nodup := (nodup_of_catalogErrorsAfter c.sound).1

theorem nodup_cards (c : Catalog) : c.cards.Nodup := .of_map _ c.nodup_names

theorem eq_of_name_eq (hd : d ∈ c.cards) (hd' : d' ∈ c.cards) (same : d.name = d'.name) : d = d' :=
  List.inj_on_of_nodup_map c.nodup_names hd hd' same

theorem get?_eq_some {name : String} (h : c.get? name = some d) : d ∈ c.cards ∧ d.name = name := by
  have found : (c.cards.find? fun d => d.name = name) = some d := h
  exact ⟨List.mem_of_find?_eq_some found, by simpa using List.find?_some found⟩

/-- Names are resolved to cards of the catalog with these names. -/
theorem resolve_eq_ok (h : c.resolve names = .ok cards) :
    cards.map (·.name) = names ∧ ∀ d ∈ cards, d ∈ c.cards := by
  have each : List.Forall₂ (fun name d => c.get? name = some d) names cards := by
    refine (mapM_eq_ok.1 h).imp fun name d hd => ?_
    unfold byName at hd
    split at hd
    next found =>
      rw [found]
      exact congrArg some (Except.ok.inj hd)
    next => cases hd
  clear h
  induction each with
  | nil => exact ⟨rfl, fun d hd => nomatch hd⟩
  | cons hd _ ih =>
    obtain ⟨mem, name⟩ := get?_eq_some hd
    obtain ⟨rest, all⟩ := ih
    exact ⟨congr (congrArg List.cons name) rest, List.forall_mem_cons.2 ⟨mem, all⟩⟩

end Catalog

/-! ## Seats -/

theorem Player.cards_putAllIntoPlay (cs : List Card) (q : Player) :
    (cs.foldl Player.putIntoPlay q).hand = q.hand ∧
      (cs.foldl Player.putIntoPlay q).played.map (·.card) = q.played.map (·.card) ++ cs ∧
      (cs.foldl Player.putIntoPlay q).id = q.id := by
  induction cs generalizing q with
  | nil => exact ⟨rfl, (List.append_nil _).symm, rfl⟩
  | cons c cs ih =>
    obtain ⟨hand, played, id⟩ := ih (q.putIntoPlay c)
    refine ⟨hand, played.trans ?_, id⟩
    simp [putIntoPlay]

/-- A player who is set up has the cards of the setup. -/
theorem PlayerSetup.cards_player {s : PlayerSetup} {q : Player} (h : s.player = .ok q) :
    q.cards = s.hand ++ s.played ∧ q.id = s.id := by
  unfold player at h
  obtain ⟨q₁, hq₁, h⟩ := bind_eq_ok.1 h
  obtain ⟨cardResources, rfl⟩ := Player.layAll_eq_ok hq₁
  split at h
  · cases h
  · cases h
    obtain ⟨hand, played, id⟩ := Player.cards_putAllIntoPlay s.played _
    exact ⟨congr (congrArg HAppend.hAppend hand) played, id⟩

/-- The names that a seat names. -/
def Seat.named (s : Seat) : List String := s.hand ++ s.played

/-- The names that the seats of a new game name. -/
def NewGame.named (r : NewGame) : List String := r.seats.flatMap Seat.named

namespace Service

theorem resolve_eq_ok {c : Catalog} {names : List String} {cards : List Card}
    (h : resolve c names = .ok cards) : cards.map (·.name) = names ∧ ∀ d ∈ cards, d ∈ c.cards := by
  exact Catalog.resolve_eq_ok (mapError_eq_ok.1 h)

theorem seated_eq_ok {c : Catalog} {solo : Bool} {s : Seat} {q : Player}
    (h : seated c solo s = .ok q) :
    q.cards.map (·.name) = s.named ∧ (∀ d ∈ q.cards, d ∈ c.cards) ∧ q.id = s.player := by
  unfold seated at h
  obtain ⟨hand, hh, h⟩ := bind_eq_ok.1 h
  obtain ⟨played, hp, h⟩ := bind_eq_ok.1 h
  obtain ⟨cards, id⟩ := PlayerSetup.cards_player (mapError_eq_ok.1 h)
  obtain ⟨handNames, handCards⟩ := resolve_eq_ok hh
  obtain ⟨playedNames, playedCards⟩ := resolve_eq_ok hp
  refine ⟨?_, ?_, id⟩
  · rw [cards, List.map_append, Seat.named]
    exact congr (congrArg HAppend.hAppend handNames) playedNames
  · rw [cards]
    exact List.forall_mem_append.2 ⟨handCards, playedCards⟩

/-- The players of a new game have the cards that their seats name. -/
theorem cards_of_seats {c : Catalog} {solo : Bool} {seats : List Seat} {qs : List Player}
    (h : seats.mapM (seated c solo) = .ok qs) :
    (qs.flatMap Player.cards).map (·.name) = seats.flatMap Seat.named ∧
      ∀ d ∈ qs.flatMap Player.cards, d ∈ c.cards := by
  have each := mapM_eq_ok.1 h
  clear h
  induction each with
  | nil => exact ⟨rfl, fun d hd => nomatch hd⟩
  | cons hq _ ih =>
    obtain ⟨names, cards, -⟩ := seated_eq_ok hq
    obtain ⟨restNames, restCards⟩ := ih
    rw [List.flatMap_cons, List.flatMap_cons, List.map_append, names, restNames]
    exact ⟨rfl, List.forall_mem_append.2 ⟨cards, restCards⟩⟩

end Service

/-! ## New games -/

namespace Game

/-- Players who are seated join those at the table. -/
theorem values_seat {qs : List Player} {t t' : Table PlayerId Player} (h : new.seat qs t = .ok t') :
    t'.values.Perm (qs ++ t.values) := by
  induction qs generalizing t with
  | nil =>
    cases h
    exact .refl _
  | cons q qs ih =>
    rw [new.seat] at h
    split at h
    · cases h
    next absent =>
      have missing : t.get? q.id = none := by
        rw [Bool.not_eq_true] at absent
        exact Table.contains_eq_false_iff.1 absent
      exact ((ih h).trans ((Table.values_insert_perm missing).append_left qs)).trans
        List.perm_middle

/-- A game that is about to start: the players who were given, and the deck. -/
theorem new_eq_ok {qs : List Player} {board : Board} {deck : List Card} {seed : Int} {g : Game}
    (h : new qs board deck seed = .ok g) :
    g.players.values.Perm qs ∧ ∃ players, g = { board, players, deck, seed } := by
  obtain ⟨players, hp, rfl⟩ := map_eq_ok.1 h
  refine ⟨(values_seat hp).trans ?_, players, rfl⟩
  rw [show (∅ : Table PlayerId Player).values = [] from rfl, List.append_nil]

end Game

namespace Service

variable {s : Service} {r : NewGame} {h : Hosted}

theorem newGame_eq_ok (made : s.newGame r = .ok h) :
    ∃ qs, s.catalogFor r = .ok h.catalog ∧
      r.seats.mapM (seated h.catalog (r.seats.length = 1)) = .ok qs ∧
      Game.new qs .standard (deckFor h.catalog r) r.seed = .ok h.game := by
  obtain ⟨catalog, hc, made⟩ := bind_eq_ok.1 made
  obtain ⟨qs, hq, made⟩ := bind_eq_ok.1 made
  obtain ⟨game, hg, made⟩ := bind_eq_ok.1 made
  cases made
  exact ⟨qs, hc, hq, mapError_eq_ok.1 hg⟩

/-- **A new game deals its catalog**: when no card is named twice, the cards of the game are those of
the catalog, in some order. -/
theorem newGame_deals (made : s.newGame r = .ok h) (once : r.named.Nodup) :
    h.game.cards.Perm h.catalog.cards := by
  obtain ⟨qs, -, hq, hg⟩ := newGame_eq_ok made
  obtain ⟨players, names, among⟩ := And.intro (Game.new_eq_ok hg).1 (cards_of_seats hq)
  obtain ⟨table, dealt⟩ := (Game.new_eq_ok hg).2
  have given : ∀ c : Card, c.name ∈ r.named ↔ ∃ d ∈ qs.flatMap Player.cards, d.name = c.name := by
    intro c
    rw [NewGame.named, ← names]
    exact List.mem_map
  -- what the players have is what the catalog has under the names that the seats name
  have named : (qs.flatMap Player.cards).Perm (h.catalog.cards.filter fun c => c.name ∈ r.named) := by
    have nodup : (qs.flatMap Player.cards).Nodup := by
      refine .of_map (·.name) ?_
      rw [names]
      exact once
    refine (List.perm_ext_iff_of_nodup nodup (h.catalog.nodup_cards.filter _)).2 fun c => ?_
    rw [List.mem_filter, decide_eq_true_eq, given c]
    constructor
    · exact fun hc => ⟨among c hc, c, hc, rfl⟩
    · rintro ⟨hc, d, hd, same⟩
      exact Catalog.eq_of_name_eq (among d hd) hc same ▸ hd
  have rest : h.game.deck.Perm (h.catalog.cards.filter fun c => c.name ∉ r.named) := by
    rw [dealt]
    exact Generator.shuffle_perm _ _
  have held : (h.game.players.values.flatMap Player.cards).Perm
      (h.catalog.cards.filter fun c => c.name ∈ r.named) := (players.flatMap_right _).trans named
  have piles : h.game.discard = [] := by rw [dealt]
  have cards : h.game.cards = h.game.players.values.flatMap Player.cards ++ h.game.deck := by
    rw [← List.append_nil (_ ++ h.game.deck), ← piles]
    rfl
  have both := List.filter_append_perm (fun c : Card => decide (c.name ∈ r.named)) h.catalog.cards
  rw [cards]
  refine (held.append rest).trans ?_
  simpa using both

/-! ## No card is lost -/

/-- A card of the catalog counts once among the cards of the catalog. -/
theorem count_tally_cards (c : Catalog) {d : Card} (hd : d ∈ c.cards) :
    (tally c.cards).count d.normal = 1 := by
  have nodup : (c.cards.map Card.normal).Nodup := by
    refine .of_map (·.name) ?_
    rw [List.map_map]
    exact c.nodup_names
  exact Multiset.count_eq_one_of_mem (Multiset.coe_nodup.2 nodup) (List.mem_map.2 ⟨d, hd, rfl⟩)

/-- **No card is lost or doubled.**  An operation leaves the cards of the game as they are, whether it
is accepted or refused; a purchase that is accepted brings its cards into the hand of the buyer and
nothing else.  So in a game that was created with no card named twice every card of the catalog is
in one place, once, whatever was played without buying cards, and there are no other cards. -/
theorem cards_conserved :
    (∀ (g : Game) (o : Operation),
      (∀ f left, g.execute o = .refused f left → left.inventory = g.inventory) ∧
      ∀ g', g.execute o = .accepted g' →
        if o.type = .purchaseCards then
          ∃ p, o.player = some p ∧ g.Buys p o.cards g' ∧
            g'.inventory = g.inventory + tally o.cards
        else g'.inventory = g.inventory) ∧
    ∀ (s : Service) (r : NewGame) (h : Hosted) (g : Game), s.newGame r = .ok h → r.named.Nodup →
      Relation.ReflTransGen Game.Proceeds h.game g →
        (∀ c ∈ h.catalog.cards, ∃ x, (g.cardsAt x).count c = 1 ∧
          ∀ y, y ≠ x → (g.cardsAt y).count c = 0) ∧
        g.inventory = tally h.catalog.cards := by
  constructor
  · intro g o
    refine ⟨fun f left refused => Game.inventory_refused refused, fun g' accepted => ?_⟩
    split
    next purchase => exact Game.buys_execute purchase accepted
    next other =>
      have kept := Game.inventory_execute (g := g) other
      rwa [accepted] at kept
  · intro s r h g made once run
    have all : g.inventory = tally h.catalog.cards := by
      calc g.inventory = h.game.inventory := Game.inventory_proceeds run
        _ = tally h.catalog.cards := tally_perm (newGame_deals made once)
    refine ⟨fun c hc => Game.exists_place ?_, all⟩
    rw [all]
    exact count_tally_cards h.catalog hc

/-- A game of one player, who is dealt a card. -/
def loneGame : NewGame where
  seats := [{ player := 1, hand := ["Sponsors"] }]

/-- In a game that starts as `loneGame` says a card is drawn, and a generation ends; in another game
a card is bought. -/
theorem cards_conserved_lone :
    (∃ h, ({} : Service).newGame loneGame = .ok h ∧
      ∀ c ∈ h.catalog.cards, ∃ x,
        (((h.game.execute (.drawCards 1 1)).game.advance.game).cardsAt x).count c = 1) ∧
    ∃ g', Game.solo.execute (.purchaseCards 1 [Game.mine]) = .accepted g' ∧
      g'.inventory = Game.solo.inventory + tally [Game.mine] := by
  constructor
  · have made : (({} : Service).newGame loneGame).toOption.isSome = true := by decide +kernel
    obtain ⟨h, hh⟩ := Option.isSome_iff_exists.1 made
    have made : ({} : Service).newGame loneGame = .ok h := toOption_eq_some.1 hh
    have drawn : Game.Proceeds h.game (h.game.execute (.drawCards 1 1)).game :=
      .operation (o := .drawCards 1 1) nofun
    have all := (cards_conserved.2 {} loneGame h _ made (by decide)
      (.tail (.single drawn) .advance)).1
    refine ⟨h, made, fun c hc => ?_⟩
    obtain ⟨x, one, -⟩ := all c hc
    exact ⟨x, one⟩
  · have bought : (Game.solo.execute (.purchaseCards 1 [Game.mine])).toExcept.toOption.isSome = true := by
      decide +kernel
    obtain ⟨g', hg⟩ := Option.isSome_iff_exists.1 bought
    have accepted := Game.toExcept_eq_ok.1 (toOption_eq_some.1 hg)
    have bought := (cards_conserved.1 Game.solo (.purchaseCards 1 [Game.mine])).2 g' accepted
    obtain ⟨p, -, -, brought⟩ : ∃ p, _ := bought
    exact ⟨g', accepted, brought⟩

end Service

end Terraforming
