import Terraforming.Proofs.Game.Violations

/-!
# What operations mark on the table

On the table there are the board and the honors, and round it sit the players.  A command that is
carried out puts down one tile, moves one marker or gives away one honor (`Game.Marks`); if it is of
another kind then the table is as it was and the same players sit there (`Game.Unmarked`).

* `Operation.lays_of_command?` — which tile an operation puts down, and where;
* `Game.run_marks`, `Game.execute_marks` — every command, and so every operation;
* `Game.unmarked_of_refused` — what is refused leaves no mark;
* `Game.run_of_absent` — a command about a player who does not sit there fails, whatever it is.
-/

namespace Terraforming

/-! ## Tiles of operations -/

/-- The tile that an operation puts down, and where. -/
inductive Operation.Lays (o : Operation) : Location → Tile → Prop where
  | ocean {l : Location} : o.type = .placeOcean → o.location = some l → Lays o l .ocean
  | city {l : Location} {kind : CityKind} {p : PlayerId} : o.type = .placeCityTile →
      o.location = some l → o.cityKind = some kind → o.player = some p → Lays o l (.city kind p)
  | greenery {l : Location} {p : PlayerId} : o.type = .placeGreenery → o.location = some l →
      o.player = some p → Lays o l (.greenery p)
  | special {l : Location} {tile : SpecialTile} {p : PlayerId} : o.type = .placeSpecialTile →
      o.location = some l → o.specialTile = some tile → o.player = some p → Lays o l (.special tile p)

theorem Operation.lays_of_command? {o : Operation} {l : Location} {t : Tile}
    (read : o.command? = .ok (.placeTile l t)) : o.Lays l t := by
  have type := type_of_command? read
  have complete := command?_eq_ok.1 read
  simp only [Command.types, List.mem_cons, List.not_mem_nil, or_false] at type
  unfold complete? at complete
  rcases type with ht | ht | ht | ht
  · simp only [ht, Option.bind_eq_bind, Option.bind_eq_some_iff] at complete
    obtain ⟨_, there, kind, hkind, p, hp, ⟨⟩⟩ := complete
    exact .city ht there hkind hp
  · simp only [ht, Option.bind_eq_bind, Option.bind_eq_some_iff] at complete
    obtain ⟨_, there, p, hp, ⟨⟩⟩ := complete
    exact .greenery ht there hp
  · simp only [ht, Option.bind_eq_bind, Option.bind_eq_some_iff] at complete
    obtain ⟨_, there, tile, htile, p, hp, ⟨⟩⟩ := complete
    exact .special ht there htile hp
  · simp only [ht, Option.bind_eq_bind, Option.bind_eq_some_iff] at complete
    obtain ⟨_, there, ⟨⟩⟩ := complete
    exact .ocean ht there

/-! ## Public operations -/

/-- The types of operations that put something on the table. -/
def OperationType.isPublic : OperationType → Bool
  | placeCityTile | placeGreenery | placeSpecialTile | placeOcean | raiseTemperature | raiseOxygen
  | claimMilestone | fundAward => true
  | _ => false

/-- The commands that put something on the table. -/
def Command.isPublic : Command → Bool
  | placeTile .. | raiseTemperature | raiseOxygen | claimMilestone .. | fundAward .. => true
  | _ => false

/-- A command is public exactly when the operation is that it was read off. -/
theorem Operation.isPublic_of_command? {o : Operation} {c : Command} (read : o.command? = .ok c) :
    c.isPublic = o.type.isPublic := by
  have type := type_of_command? read
  cases c with
  | placeTile l t =>
    cases lays_of_command? read with
    | ocean ht | city ht | greenery ht | special ht =>
      rw [ht]
      rfl
  | _ =>
    rw [List.mem_singleton.1 type]
    rfl

/-- The affairs of a player are not on the table, and the player stays who they are. -/
theorem Player.Becomes.unmarked {p : PlayerId} {q q' : Player} {c : Command}
    (becomes : q.Becomes p c q') : c.isPublic = false ∧ q'.id = q.id := by
  cases becomes <;> exact ⟨rfl, rfl⟩

namespace Game

variable {g g' g'' : Game} {c : Command} {o : Operation} {p : PlayerId} {q q' : Player}

/-! ## Nothing on the table -/

/-- Board and honors are as they were, and the same players sit at the table. -/
structure Unmarked (g g' : Game) : Prop where
  board : g'.board = g.board
  claimed : g'.claimed = g.claimed
  funded : g'.funded = g.funded
  ids : ∀ p, (g'.player? p).map Player.id = (g.player? p).map Player.id

namespace Unmarked

theorem of_players (board : g'.board = g.board) (claimed : g'.claimed = g.claimed)
    (funded : g'.funded = g.funded) (players : g'.players = g.players) : g.Unmarked g' := by
  refine ⟨board, claimed, funded, fun p => ?_⟩
  rw [player?, players, player?]

theorem refl (g : Game) : g.Unmarked g := .of_players rfl rfl rfl rfl

theorem trans (h : g.Unmarked g') (h' : g'.Unmarked g'') : g.Unmarked g'' :=
  ⟨h'.board.trans h.board, h'.claimed.trans h.claimed, h'.funded.trans h.funded,
    fun p => (h'.ids p).trans (h.ids p)⟩

theorem withPlayer (hq : g.player? p = some q) (same : q'.id = q.id) :
    g.Unmarked (g.withPlayer p q') := by
  refine ⟨rfl, rfl, rfl, fun p' => ?_⟩
  rw [player?_withPlayer]
  by_cases here : p' = p
  · rw [if_pos here, here, hq, Option.map_some, Option.map_some, same]
  · rw [if_neg here]

theorem resetCardActions (g : Game) : g.Unmarked g.resetCardActions := by
  refine ⟨rfl, rfl, rfl, fun p => ?_⟩
  rw [player?, Game.resetCardActions, Table.get?_mapValues, Option.map_map]
  rfl

/-- The players at the table are known by the same ids. -/
theorem playerIds (h : g.Unmarked g') : g'.playerIds = g.playerIds := by
  have same : g'.players.mapValues Player.id = g.players.mapValues Player.id := by
    refine Table.ext_get? fun p => ?_
    rw [Table.get?_mapValues, Table.get?_mapValues]
    exact h.ids p
  have keys : ∀ t : Table PlayerId Player, (t.mapValues Player.id).keys = t.keys := by
    intro t
    rw [Table.keys, Table.mapValues, List.map_map]
    rfl
  rw [Game.playerIds, Game.playerIds, ← keys, same, keys]

end Unmarked

theorem unmarked_deal (hq : g.player? p = some q) (n : Nat) : g.Unmarked (g.deal p q n) := by
  have found : { g with deck := g.deck.drop n }.player? p = some q := hq
  have drawn : { q with hand := q.hand ++ g.deck.take n }.id = q.id := rfl
  obtain ⟨board, claimed, funded, ids⟩ := Unmarked.withPlayer found drawn
  exact ⟨board, claimed, funded, ids⟩

theorem unmarked_discardAll (cards : List Card) (hq : g.player? p = some q) :
    g.Unmarked (discardAll p cards q g).game := by
  refine discardAll_keeps (I := g.Unmarked) cards hq ?_ (.refl g)
  intro h q d hq _ unmarked
  have found : { h with discard := h.discard ++ [d] }.player? p = some q := hq
  have piled : h.Unmarked { h with discard := h.discard ++ [d] } := .of_players rfl rfl rfl rfl
  have given : { q with hand := q.hand.erase d }.id = q.id := rfl
  exact unmarked.trans (piled.trans (.withPlayer found given))

/-- A refusal leaves no mark. -/
theorem unmarked_of_refused {f : Fault} (h : g.execute o = .refused f g') : g.Unmarked g' := by
  obtain rfl | ⟨p, q, cards, hq, rfl⟩ := left_of_refused h
  · exact .refl g'
  · exact unmarked_discardAll cards hq

/-! ## Every command -/

/-- What a command does on the table. -/
inductive Marks (g : Game) : Command → Game → Prop where
  | tile {l : Location} {t : Tile} {b : Board} : g.board.place l t = .ok b →
      Marks g (.placeTile l t) { g with board := b }
  | temperature : g.board.temperatureMaxed = false →
      Marks g .raiseTemperature
        { g with board := { g.board with temperature := g.board.temperature + Board.temperatureStep } }
  | oxygen : g.board.oxygenMaxed = false →
      Marks g .raiseOxygen { g with board := { g.board with oxygen := g.board.oxygen + 1 } }
  | milestone {p : PlayerId} {q : Player} {name : String} : g.player? p = some q →
      g.claimed.contains name = false →
      Marks g (.claimMilestone p name) { g with claimed := g.claimed.set name p }
  | award {p : PlayerId} {q : Player} {name : String} : g.player? p = some q →
      g.funded.contains name = false →
      Marks g (.fundAward p name) { g with funded := g.funded.set name p }
  | nothing {c : Command} {g' : Game} : c.isPublic = false → g.Unmarked g' → Marks g c g'

/-- **A command that is carried out** marks one thing on the table, or nothing. -/
theorem run_marks (h : g.run c = .ok g') : g.Marks c g' := by
  cases run_iff.1 h with
  | tile placed => exact .tile placed
  | temperature below => exact .temperature below
  | oxygen below => exact .oxygen below
  | milestone hq _ free => exact .milestone hq free
  | award hq _ free => exact .award hq free
  | alone hq becomes =>
    obtain ⟨unseen, same⟩ := becomes.unmarked
    exact .nothing unseen (.withPlayer hq same)
  | dealt hq => exact .nothing rfl (unmarked_deal hq _)
  | reshuffled hq =>
    have shuffled : g.Unmarked g.reshuffle := .of_players rfl rfl rfl rfl
    exact .nothing rfl (shuffled.trans (unmarked_deal (g := g.reshuffle) hq _))
  | discarded hq => exact .nothing rfl (unmarked_discardAll _ hq)
  | untapped => exact .nothing rfl (.resetCardActions g)
  | generation => exact .nothing rfl (.of_players rfl rfl rfl rfl)

/-- **An operation that is accepted** marks one thing on the table, or nothing, and enters the log. -/
theorem execute_marks (h : g.execute o = .accepted g') :
    ∃ c g₁, o.command? = .ok c ∧ g.Marks c g₁ ∧ { g₁ with log := g.log ++ [o] } = g' := by
  obtain ⟨c, g₁, read, carried, rfl⟩ := execute_eq_accepted.1 h
  refine ⟨c, g₁, read, run_marks carried, ?_⟩
  rw [log_run carried]

/-- Nobody comes or goes. -/
theorem playerIds_execute (accepted : g.execute o = .accepted g') : g'.playerIds = g.playerIds := by
  obtain ⟨c, g₁, -, marks, rfl⟩ := execute_marks accepted
  cases marks with
  | nothing _ unmarked => exact unmarked.playerIds
  | _ => rfl

theorem playerIds_executeAll {os : List Operation} (accepted : g.executeAll os = .accepted g') :
    g'.playerIds = g.playerIds :=
  executeAll_keeps (I := fun h => h.playerIds = g.playerIds) accepted
    (fun _ _ _ _ same ho => (playerIds_execute ho).trans same) rfl

/-- A command about somebody who does not sit at the table fails for that reason. -/
theorem run_of_absent (about : c.player? = some p) (absent : g.player? p = none) :
    g.run c = .error (.misuse (.unknownPlayer p)) := by
  have unknown : g.player p = .error (.misuse (.unknownPlayer p)) := by rw [player, absent]
  cases c with
  | placeTile | raiseTemperature | raiseOxygen | resetCardActions | advanceGeneration => cases about
  | _ =>
    cases about
    simp only [run, changeResources, changeProduction, changeCardResource, draw, putIntoPlay, update,
      addEffect, markCardActionUsed, purchaseCards, claimMilestone, fundAward, unknown, error_bind,
      Except.map]

end Game

end Terraforming
