import Terraforming.Proofs.Board.Sound
import Terraforming.Proofs.Player.Sound

/-!
# Sound games

A game is sound when its players and its board are, and when the milestones and awards taken are
known ones, three of each at most.  Operations keep it so, whatever their fields hold and whether
they are accepted or refused.

* `run_sound` — a command that is carried out;
* `discardAll_sound` — a discard that stops half way, the one refusal that leaves something behind;
* `execute_sound` — hence any operation;
* `sound_runs` — hence any run of operations.

A greenery without an owner does not show, so the next tile would go on top of it: soundness goes
together with the condition that every greenery has an owner (`Board.Owned`), which operations keep
as well (`unowned_covered`).
-/

namespace Terraforming

/-- A tile that the command puts down shows. -/
def Command.Shows : Command → Prop
  | .placeTile _ t => t.Shows
  | _ => True

theorem Operation.command_shows {o : Operation} {c : Command} (h : o.command? = .ok c) :
    c.Shows := by
  have complete : o.complete? = some c := by
    rw [command?] at h
    split at h
    next c' hc =>
      cases h
      exact hc
    next => cases h
  unfold complete? at complete
  cases ht : o.type with
  | placeCityTile | placeSpecialTile | placeOcean =>
    simp only [ht, Option.bind_eq_bind, Option.bind_eq_some_iff] at complete
    obtain ⟨l, -, k, -, p, -, ⟨⟩⟩ := complete
    exact fun kind => nomatch kind
  | placeGreenery =>
    simp only [ht, Option.bind_eq_bind, Option.bind_eq_some_iff] at complete
    obtain ⟨l, -, p, -, ⟨⟩⟩ := complete
    exact fun _ => rfl
  | _ =>
    -- No other type is read as a command that places a tile.
    cases c with
    | placeTile l t =>
      simp [ht, Option.bind_eq_some_iff] at complete
        <;> split at complete
        <;> simp at complete
    | _ => trivial

/-- A command on the affairs of a player leaves them sound. -/
theorem Player.Becomes.sound {p : PlayerId} {q q' : Player} {c : Command}
    (becomes : q.Becomes p c q') (sound : q.Sound) : q'.Sound := by
  cases becomes with
  | resources enough => exact sound.setBalance _ enough
  | cardResource hd holds enough => exact sound.setHeld hd holds enough
  | intoPlay _ fresh => exact sound.putIntoPlay _ fresh
  | effect inPlay => exact sound.addEffect _ inPlay
  | tapped hd actions => exact sound.tap hd actions
  | purchase _ covered =>
    have paid := sound.setBalance .megacredits (Int.sub_nonneg_of_le covered)
    exact paid.of_same rfl rfl rfl rfl rfl rfl
  | produced can => exact sound.produced can
  | _ => exact sound.of_same rfl rfl rfl rfl rfl rfl

namespace Game

variable {g g' : Game} {p p' : PlayerId} {q : Player}

/-- Players and board are sound, and honors are known and few. -/
structure Sound (g : Game) : Prop where
  players : ∀ p q, g.player? p = some q → q.Sound
  board : g.board.Sound
  milestones : ∀ n ∈ g.claimed.keys, (Vocabulary.ofWord? (α := Milestone) n).isSome = true
  milestoneCount : g.claimed.size ≤ Milestone.limit
  awards : ∀ n ∈ g.funded.keys, (Vocabulary.ofWord? (α := Award) n).isSome = true
  awardCount : g.funded.size ≤ Award.limit

namespace Sound

theorem withPlayer (sound : g.Sound) (hq : q.Sound) : (g.withPlayer p q).Sound := by
  have players : ∀ p' q', (g.withPlayer p q).player? p' = some q' → q'.Sound :=
    Table.forall_insert sound.players hq
  exact ⟨players, sound.board, sound.milestones, sound.milestoneCount, sound.awards,
    sound.awardCount⟩

theorem withBoard (sound : g.Sound) {b : Board} (hb : b.Sound) : { g with board := b }.Sound :=
  ⟨sound.players, hb, sound.milestones, sound.milestoneCount, sound.awards, sound.awardCount⟩

/-- The piles, the counters and the log do not matter. -/
theorem of_same (sound : g.Sound) (players : g'.players = g.players)
    (board : g'.board = g.board) (claimed : g'.claimed = g.claimed)
    (funded : g'.funded = g.funded) : g'.Sound := by
  refine ⟨?_, ?_, ?_, ?_, ?_, ?_⟩
  · intro p q hq
    rw [player?, players] at hq
    exact sound.players p q hq
  · rw [board]
    exact sound.board
  · rw [claimed]
    exact sound.milestones
  · rw [claimed]
    exact sound.milestoneCount
  · rw [funded]
    exact sound.awards
  · rw [funded]
    exact sound.awardCount

theorem deal (sound : g.Sound) (hq : q.Sound) (n : Nat) : (g.deal p q n).Sound := by
  have taken : { g with deck := g.deck.drop n }.Sound := sound.of_same rfl rfl rfl rfl
  exact taken.withPlayer (hq.of_same rfl rfl rfl rfl rfl rfl)

theorem resetCardActions (sound : g.Sound) : g.resetCardActions.Sound := by
  refine ⟨?_, sound.board, sound.milestones, sound.milestoneCount, sound.awards,
    sound.awardCount⟩
  intro p q hq
  rw [player?, Game.resetCardActions, Table.get?_mapValues] at hq
  obtain ⟨q₀, hq₀, rfl⟩ := Option.map_eq_some_iff.1 hq
  exact (sound.players p q₀ hq₀).untapped

theorem claim (sound : g.Sound) {name : String}
    (known : (Vocabulary.ofWord? (α := Milestone) name).isSome = true)
    (free : g.claimed.contains name = false) (few : g.claimed.size < Milestone.limit) :
    { g with claimed := g.claimed.set name p }.Sound := by
  refine ⟨sound.players, sound.board, ?_, ?_, sound.awards, sound.awardCount⟩
  · intro n hn
    rcases Ledger.mem_keys_set.1 hn with rfl | hn
    · exact known
    · exact sound.milestones n hn
  · show (g.claimed.set name p).size ≤ Milestone.limit
    rw [Ledger.size_set free]
    exact few

theorem fund (sound : g.Sound) {name : String}
    (known : (Vocabulary.ofWord? (α := Award) name).isSome = true)
    (free : g.funded.contains name = false) (few : g.funded.size < Award.limit) :
    { g with funded := g.funded.set name p }.Sound := by
  refine ⟨sound.players, sound.board, sound.milestones, sound.milestoneCount, ?_, ?_⟩
  · intro n hn
    rcases Ledger.mem_keys_set.1 hn with rfl | hn
    · exact known
    · exact sound.awards n hn
  · show (g.funded.set name p).size ≤ Award.limit
    rw [Ledger.size_set free]
    exact few

end Sound

/-! ## One operation -/

/-- A discard keeps a game sound, and its board as it was, even one that stops half way. -/
theorem discardAll_sound (sound : g.Sound) (hq : g.player? p = some q) (cards : List Card) :
    (discardAll p cards q g).game.Sound ∧ (discardAll p cards q g).game.board = g.board := by
  refine discardAll_keeps (I := fun h => h.Sound ∧ h.board = g.board) cards hq ?_ ⟨sound, rfl⟩
  rintro h q c hq - ⟨sound, board⟩
  have less : { q with hand := q.hand.erase c }.Sound :=
    (sound.players p q hq).of_same rfl rfl rfl rfl rfl rfl
  have piled : { h with discard := h.discard ++ [c] }.Sound := sound.of_same rfl rfl rfl rfl
  exact ⟨piled.withPlayer less, board⟩

/-- A command that is carried out keeps a game sound, and its greeneries owned. -/
theorem run_sound {c : Command} (sound : g.Sound) (owned : g.board.Owned) (shows : c.Shows)
    (h : g.run c = .ok g') : g'.Sound ∧ g'.board.Owned := by
  cases run_iff.1 h with
  | @alone c p q q' hq becomes =>
    exact ⟨sound.withPlayer (becomes.sound (sound.players p q hq)), owned⟩
  | @dealt p q count hq => exact ⟨sound.deal (sound.players p q hq) _, owned⟩
  | @reshuffled p q count hq =>
    have shuffled : g.reshuffle.Sound := sound.of_same rfl rfl rfl rfl
    exact ⟨shuffled.deal (sound.players p q hq) _, owned⟩
  | @discarded p q cards hq =>
    obtain ⟨kept, board⟩ := discardAll_sound sound hq cards
    exact ⟨kept, board ▸ owned⟩
  | tile placed => exact ⟨sound.withBoard (sound.board.place owned placed), owned.place shows placed⟩
  | temperature below =>
    have raised := sound.board.raiseTemperature (Board.raiseTemperature_eq_ok.2 ⟨below, rfl⟩)
    exact ⟨sound.withBoard raised, owned⟩
  | oxygen below =>
    have raised := sound.board.raiseOxygen (Board.raiseOxygen_eq_ok.2 ⟨below, rfl⟩)
    exact ⟨sound.withBoard raised, owned⟩
  | untapped => exact ⟨sound.resetCardActions, owned⟩
  | generation => exact ⟨sound.of_same rfl rfl rfl rfl, owned⟩
  | milestone _ known free few => exact ⟨sound.claim known free few, owned⟩
  | award _ known free few => exact ⟨sound.fund known free few, owned⟩

/-- What a refused command leaves. -/
theorem leftBy_sound {c : Command} (sound : g.Sound) (owned : g.board.Owned) :
    (g.leftBy c).Sound ∧ (g.leftBy c).board.Owned := by
  cases c with
  | discardCards p cards =>
    rw [leftBy]
    cases hq : g.player? p with
    | none => exact ⟨sound, owned⟩
    | some q =>
      have left := discardAll_sound sound hq cards
      exact ⟨left.1, left.2 ▸ owned⟩
  | _ => exact ⟨sound, owned⟩

/-- Accepted or refused, an operation keeps a game sound. -/
theorem execute_sound (sound : g.Sound) (owned : g.board.Owned) (o : Operation) :
    (g.execute o).game.Sound ∧ (g.execute o).game.board.Owned := by
  unfold execute
  split
  next v hc => exact ⟨sound, owned⟩
  next c hc =>
    split
    next g₁ hr =>
      have ran := run_sound sound owned (Operation.command_shows hc) hr
      exact ⟨ran.1.of_same rfl rfl rfl rfl, ran.2⟩
    next f hr => exact leftBy_sound sound owned

/-! ## Runs of operations -/

/-- What a list of operations leaves, each applied to what the one before it left, be it accepted
or refused. -/
def applyEach (g : Game) (os : List Operation) : Game :=
  os.foldl (fun g o => (g.execute o).game) g

/-- **Soundness is an invariant.**  An operation of any type with any fields, accepted or refused,
leaves a sound game sound, and greeneries owned that were; and so does any run of operations. -/
theorem sound_runs :
    (∀ g : Game, g.Sound → g.board.Owned → ∀ o : Operation,
      (g.execute o).game.Sound ∧ (g.execute o).game.board.Owned) ∧
    ∀ g : Game, g.Sound → g.board.Owned → ∀ os : List Operation,
      (g.applyEach os).Sound ∧ (g.applyEach os).board.Owned := by
  constructor
  · intro g sound owned o
    exact execute_sound sound owned o
  · intro g sound owned os
    induction os generalizing g with
    | nil => exact ⟨sound, owned⟩
    | cons o os ih =>
      obtain ⟨sound', owned'⟩ := execute_sound sound owned o
      exact ih _ sound' owned'

/-- A game of one player in which a greenery lies on a space that is reserved for an ocean. -/
def overgrown (owner : Option PlayerId) : Game where
  board := { Board.standard with greeneries := Table.ofList [(⟨5, -1⟩, owner)] }
  players := Table.ofList [(1, { id := 1 })]

theorem overgrown_sound (owner : Option PlayerId) : (overgrown owner).Sound where
  players := by
    intro p q hq
    obtain ⟨-, rfl⟩ : p = 1 ∧ q = { id := 1 } := by
      simpa using (Table.get?_ofList (by simp)).1 hq
    exact Player.sound_new 1
  board := {
    exclusive := List.nodup_singleton (Location.onMars ⟨5, -1⟩)
    onBoard := by
      intro l hl
      obtain rfl : l = .onMars ⟨5, -1⟩ := List.mem_singleton.1 hl
      show Board.standard.spaces.contains (.onMars ⟨5, -1⟩) = true
      decide +kernel
    oceans := Nat.zero_le 9
    oxygen := show 0 ≤ (0 : Int) ∧ 0 ≤ (14 : Int) by decide
    temperature := show (-30 : Int) ≤ -30 ∧ (-30 : Int) ≤ 8 by decide
    evenTemperature := ⟨-15, rfl⟩ }
  milestones := fun n hn => nomatch hn
  milestoneCount := Nat.zero_le 3
  awards := fun n hn => nomatch hn
  awardCount := Nat.zero_le 3

/-- A run in `overgrown`: the ocean is refused, as the greenery is in its place. -/
theorem sound_runs_overgrown :
    (overgrown (some 1)).Sound ∧ (overgrown (some 1)).board.Owned ∧
      ((overgrown (some 1)).applyEach
        [.placeOcean (.onMars ⟨5, -1⟩), .raiseTemperature, .changeResources 1 (some .heat) 8]).Sound := by
  have owned : (overgrown (some 1)).board.Owned := by
    intro h o ho
    obtain ⟨-, rfl⟩ : h = ⟨5, -1⟩ ∧ o = some 1 := by
      simpa using (Table.get?_ofList (by simp)).1 ho
    rfl
  have sound := overgrown_sound (some 1)
  exact ⟨sound, owned, (sound_runs.2 _ sound owned _).1⟩

/-- Where the greenery has no owner, it does not show, and the ocean goes on top of it. -/
theorem unowned_covered :
    (overgrown none).Sound ∧
      ¬((overgrown none).execute (.placeOcean (.onMars ⟨5, -1⟩))).game.Sound := by
  refine ⟨overgrown_sound none, fun sound => ?_⟩
  have twice : ¬((overgrown none).execute
      (.placeOcean (.onMars ⟨5, -1⟩))).game.board.occupied.Nodup := by
    decide +kernel
  exact twice sound.board.exclusive

end Game

end Terraforming
