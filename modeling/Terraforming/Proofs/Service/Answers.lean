import Terraforming.Proofs.Service.Changes
import Terraforming.Proofs.Service.Seats

/-!
# Answers

A request is answered with what was asked for or with a rejection; it is not answered if something
breaks down.  A new game breaks down when somebody starts with less than nothing, and the end of a
generation when somebody cannot produce.  What is brought in from outside, by seats and by raw
operations, can be such that later requests break down.  If it is proper, none ever does.

* `Change.Proper` — the changes that bring in nothing of that kind;
* `Service.Reached` — the services that proper changes lead to from a fresh one;
* `Service.Reached.presentable` — the invariant: every game can be presented;
* `Service.newGame_broken_iff` — the new games that break down;
* `Service.reached_answers` — a service that was reached answers every question and every proper
  change.
-/

namespace Terraforming

open Service

/-! ## Answers and rejections -/

section

variable {α β : Type} {x : Except Failure α}

/-- There is an answer, if only a rejection. -/
def Answered (x : Except Failure α) : Prop := ∀ e, x ≠ .error (.broken e)

namespace Answered

theorem ok (a : α) : Answered (.ok a : Except Failure α) := fun _ h => nomatch h

theorem rejected (r : Rejection) : Answered (.error (.rejected r) : Except Failure α) :=
  fun _ h => nomatch h

/-- A failure that is an answer to one request is an answer to any. -/
theorem of_error {f : Failure} (h : Answered x) (hx : x = .error f) :
    Answered (.error f : Except Failure β) := by
  cases f with
  | rejected r => exact rejected r
  | broken e => exact absurd hx (h e)

theorem bind {f : α → Except Failure β} (first : Answered x)
    (next : ∀ a, x = .ok a → Answered (f a)) : Answered (x >>= f) := by
  cases x with
  | ok a => exact next a rfl
  | error failure => exact first.of_error rfl

theorem map {f : α → β} (h : Answered x) : Answered (x.map f) := by
  cases x with
  | ok a => exact ok (f a)
  | error failure => exact h.of_error rfl

/-- What is worked out without a fault is an answer. -/
theorem unbroken {y : Except Fault α} (h : ∃ a, y = .ok a) : Answered (Terraforming.unbroken y) := by
  obtain ⟨a, rfl⟩ := h
  exact ok a

theorem mapError_rejected {ε : Type} {y : Except ε α} (f : ε → Rejection) :
    Answered (y.mapError fun e => .rejected (f e)) := by
  cases y with
  | ok a => exact ok a
  | error e => exact rejected (f e)

end Answered

end

/-! ## Services whose games can be presented -/

namespace Service

variable {s : Service} {id : String} {h : Hosted} {g : Game}

/-- The catalogs are built in, and every game can be presented. -/
structure Presentable (s : Service) : Prop where
  usual : s.usual ∈ Catalog.builtin
  games : ∀ id h, s.games.get? id = some h → h.catalog ∈ Catalog.builtin ∧ h.game.Presentable

namespace Presentable

theorem fresh {c : Catalog} (supply : Nat → String) (builtin : c ∈ Catalog.builtin) :
    ({ supply, usual := c } : Service).Presentable :=
  ⟨builtin, fun _ _ h => nomatch h⟩

theorem insert (presentable : s.Presentable) (catalog : h.catalog ∈ Catalog.builtin)
    (game : h.game.Presentable) (created : Nat) :
    ({ s with games := s.games.insert id h, created } : Service).Presentable := by
  have all : ∀ id' h', (s.games.insert id h).get? id' = some h' →
      h'.catalog ∈ Catalog.builtin ∧ h'.game.Presentable :=
    Table.forall_insert presentable.games ⟨catalog, game⟩
  exact ⟨presentable.usual, all⟩

theorem hosted (presentable : s.Presentable) (hh : s.hosted id = .ok h) :
    h.catalog ∈ Catalog.builtin ∧ h.game.Presentable :=
  presentable.games id h (hosted_eq_ok.1 hh)

theorem withGame (presentable : s.Presentable) (hh : s.hosted id = .ok h) (game : g.Presentable) :
    (s.withGame id h g).Presentable :=
  presentable.insert (h := { h with game := g }) (presentable.hosted hh).1 game s.created

end Presentable

end Service

/-! ## Proper changes -/

namespace Change

/-- Nobody who sits down owes anything or produces less than the floor, and an operation is proper in
its game. -/
def Proper (s : Service) : Change → Prop
  | create r => ∀ seat ∈ r.seats, seat.Solvent ∧ seat.Productive (r.seats.length = 1)
  | operate id o => ∀ h, s.hosted id = .ok h → o.Proper h.game
  | finish _ | advance _ | move _ _ => True

/-- The change is answered, if only with a rejection. -/
def Answered (s : Service) : Change → Prop
  | create r => Terraforming.Answered (s.createGame r).1
  | finish id => Terraforming.Answered (s.endGame id).1
  | operate id o => Terraforming.Answered (s.applyOperation id o).1
  | advance id => Terraforming.Answered (s.advance id).1
  | move id r => Terraforming.Answered (s.move id r).1

end Change

/-- The services that proper changes lead to from a fresh one with a built-in catalog, wherever its ids
come from. -/
inductive Service.Reached : Service → Prop
  | fresh {c : Catalog} (supply : Nat → String) : c ∈ Catalog.builtin →
      Reached { supply, usual := c }
  | change {s : Service} {c : Change} : Reached s → c.Proper s → Reached (c.after s)

namespace Service

variable {s : Service} {id : String} {h : Hosted} {g : Game} {r : NewGame} {o : Operation}
  {m : MoveRequest} {a : Attempt} {p : PlayerId}

/-! ## Looking up -/

theorem answered_hosted (s : Service) (id : String) : Answered (s.hosted id) := by
  unfold hosted
  split
  · exact .ok _
  · exact .rejected _

theorem answered_hostedFor (s : Service) (id : String) (p : PlayerId) :
    Answered (s.hostedFor id p) := by
  refine (answered_hosted s id).bind fun h _ => ?_
  dsimp only
  split
  · exact .rejected _
  · exact .ok _

theorem answered_resolve (c : Catalog) (names : List String) : Answered (resolve c names) :=
  .mapError_rejected Rejection.unresolved

theorem answered_summary (h : Hosted) (id : String) (presentable : h.game.Presentable) :
    Answered (h.summary id) :=
  (Answered.unbroken presentable.scores_answers).bind fun _ _ => .ok _

theorem summary_broken_iff :
    (∃ e, h.summary id = .error (.broken e)) ↔ h.game.Unscored := by
  unfold Hosted.summary unbroken Game.Unscored
  cases h.game.scores with
  | ok ns => exact iff_of_false (fun ⟨e, he⟩ => nomatch he) fun ⟨f, hf⟩ => nomatch hf
  | error f => exact iff_of_true ⟨.fault f, rfl⟩ ⟨f, rfl⟩

/-! ## New games -/

/-- Somebody starts with less than nothing, and nothing else is wrong with the seats up to there. -/
def Overdrawn (s : Service) (r : NewGame) : Prop :=
  ∃ c before seat after, s.catalogFor r = .ok c ∧ r.seats = before ++ seat :: after ∧
    (∀ t ∈ before, t.Known c ∧ t.Solvent) ∧ seat.Known c ∧ ¬seat.Solvent

theorem seated_broken_iff {c : Catalog} {solo : Bool} {seat : Seat} :
    (∃ e, seated c solo seat = .error (.broken e)) ↔ seat.Known c ∧ ¬seat.Solvent := by
  rcases seated_cases c solo seat with ⟨unknown, r, hr⟩ | ⟨known, owing, e, he⟩ | ⟨-, solvent, q, hq⟩
  · exact iff_of_false (fun ⟨e, he⟩ => nomatch hr.symm.trans he) fun both => unknown both.1
  · exact iff_of_true ⟨e, he⟩ ⟨known, owing⟩
  · exact iff_of_false (fun ⟨e, he⟩ => nomatch hq.symm.trans he) fun both => both.2 solvent

theorem seated_ok_iff {c : Catalog} {solo : Bool} {seat : Seat} :
    (∃ q, seated c solo seat = .ok q) ↔ seat.Known c ∧ seat.Solvent := by
  rcases seated_cases c solo seat with ⟨unknown, r, hr⟩ | ⟨-, owing, e, he⟩ | ⟨known, solvent, q, hq⟩
  · exact iff_of_false (fun ⟨q, hq⟩ => nomatch hr.symm.trans hq) fun both => unknown both.1
  · exact iff_of_false (fun ⟨q, hq⟩ => nomatch he.symm.trans hq) fun both => owing both.2
  · exact iff_of_true ⟨q, hq⟩ ⟨known, solvent⟩

/-- A new game breaks down exactly when somebody starts with less than nothing, and nobody before is
turned away. -/
theorem newGame_broken_iff :
    (∃ e, s.newGame r = .error (.broken e)) ↔ s.Overdrawn r := by
  constructor
  · rintro ⟨e, he⟩
    unfold newGame at he
    cases hc : s.catalogFor r with
    | error f =>
      rw [hc, error_bind] at he
      obtain rfl : f = .broken e := Except.error.inj he
      unfold catalogFor at hc
      split at hc
      · cases hc
      · split at hc
        · cases hc
        · cases hc
    | ok c =>
      rw [hc, ok_bind] at he
      cases hq : r.seats.mapM (seated c (r.seats.length = 1)) with
      | error f =>
        rw [hq, error_bind] at he
        obtain rfl : f = .broken e := Except.error.inj he
        obtain ⟨before, seat, after, split, fine, breaks⟩ := mapM_eq_error.1 hq
        exact ⟨c, before, seat, after, hc, split, fun t ht => seated_ok_iff.1 (fine t ht),
          seated_broken_iff.1 ⟨e, breaks⟩⟩
      | ok qs =>
        rw [hq, ok_bind] at he
        exact absurd he ((Answered.mapError_rejected Rejection.misuse).bind (fun _ _ => .ok _) e)
  · rintro ⟨c, before, seat, after, hc, split, fine, owing⟩
    obtain ⟨e, breaks⟩ : ∃ e, seated c (r.seats.length = 1) seat = .error (.broken e) :=
      seated_broken_iff.2 owing
    have stops : r.seats.mapM (seated c (r.seats.length = 1)) = .error (.broken e) :=
      mapM_eq_error.2 ⟨before, seat, after, split, fun t ht => seated_ok_iff.2 (fine t ht), breaks⟩
    exact ⟨e, by simp only [newGame, hc, ok_bind, stops, error_bind]⟩

/-- So does the request for it. -/
theorem createGame_broken_iff (usual : s.usual ∈ Catalog.builtin) :
    (∃ e, (s.createGame r).1 = .error (.broken e)) ↔ s.Overdrawn r := by
  rw [← newGame_broken_iff]
  cases made : s.newGame r with
  | error f => simp only [createGame, made, Except.error.injEq]
  | ok h =>
    have answered : Answered (s.createGame r).1 := by
      rw [createGame_of_newGame made]
      exact (Answered.unbroken (newGame_scores usual made)).bind fun _ _ => .ok _
    refine iff_of_false ?_ ?_
    · rintro ⟨e, he⟩
      exact answered e he
    · rintro ⟨e, he⟩
      cases he

theorem catalog_of_newGame (usual : s.usual ∈ Catalog.builtin) (made : s.newGame r = .ok h) :
    h.catalog ∈ Catalog.builtin := by
  obtain ⟨qs, hc, -⟩ := newGame_eq_ok made
  exact catalogFor_builtin usual hc

/-! ## Operations and moves -/

/-- An operation of somebody who takes part, or of nobody, does not break down. -/
theorem answered_operated (equipped : h.game.Equipped) (hc : checkPlayer h o = .ok ()) :
    Answered (operated h o) := by
  have present : ∀ p, o.player = some p → ∃ q, h.game.player? p = some q := by
    intro p hp
    cases hq : h.game.player? p with
    | some q => exact ⟨q, rfl⟩
    | none =>
      have away : checkPlayer h o = .error (.rejected (.unknownPlayer p)) := by
        simp [checkPlayer, hp, Option.filter, hq]
      cases hc.symm.trans away
  have violates := Game.execute_violates equipped present
  unfold operated
  cases done : (h.game.execute o).toExcept with
  | ok g => exact .ok g
  | error f =>
    obtain ⟨v, rfl⟩ := violates f done
    exact .rejected _

theorem execute_of_operated (ho : operated h o = .ok g) : h.game.execute o = .accepted g := by
  unfold operated at ho
  split at ho
  next done =>
    cases ho
    exact Game.toExcept_eq_ok.1 done
  · cases ho
  · cases ho

theorem answered_checkPlayer (h : Hosted) (o : Operation) : Answered (checkPlayer h o) := by
  unfold checkPlayer
  split
  · exact .rejected _
  · exact .ok _

theorem carries_turnFor {card : Option Card} {move : Move} (hc : cardFor h move = .ok card) :
    (turnFor card move).Carries := by
  cases move with
  | playCard name =>
    dsimp only [cardFor] at hc
    split at hc
    · cases hc
      rfl
    · cases hc
  | performAction i n => trivial
  | standardProject project => rfl

/-- A move of somebody who takes part comes to an attempt or is turned away. -/
theorem answered_attempt {q : Player} (regular : h.game.Regular) (hq : h.game.player? m.player = some q) :
    Answered (attempt h m) := by
  have card : Answered (cardFor h m.move) := by
    unfold cardFor
    split
    · split
      · exact .ok _
      · exact .rejected _
    · exact .ok _
  refine card.bind fun card hc => (Answered.mapError_rejected fun r => r).bind fun cs _ => ?_
  obtain ⟨a, ha, -⟩ := Game.takeTurn_answers regular hq (carries_turnFor hc) cs
  exact .unbroken ⟨a, ha⟩

/-- What a move leads to can be presented. -/
theorem presentable_of_attempt (presentable : h.game.Presentable) (ha : attempt h m = .ok a)
    (hg : committed? m a = some g) : g.Presentable := by
  obtain ⟨-, ops, rfl⟩ := committed?_eq_some.1 hg
  obtain ⟨card, -, ha⟩ := bind_eq_ok.1 ha
  obtain ⟨cs, -, ha⟩ := bind_eq_ok.1 ha
  have taken := mapError_eq_ok.1 ha
  exact presentable.attempt (.takeTurn taken) (Game.takeTurn_orderly presentable.regular taken) rfl

/-- The end of a generation breaks down exactly when somebody cannot produce, or the game cannot be
scored afterwards. -/
theorem advance_broken_iff (hh : s.hosted id = .ok h) :
    (∃ e, (s.advance id).1 = .error (.broken e)) ↔
      (∃ before left, h.game.Stops before left) ∨ ∃ g, h.game.Ends g ∧ g.Unscored := by
  cases ha : h.game.advance with
  | refused f left =>
    obtain ⟨before, stops⟩ := Game.advance_refused_iff.1 ⟨f, ha⟩
    refine iff_of_true ⟨.fault f, ?_⟩ (.inl ⟨before, left, stops⟩)
    simp only [Service.advance, hh, ha]
    rfl
  | accepted g =>
    have ends := Game.advance_accepted_iff.1 ha
    rw [advance_of_ends hh ends, summary_broken_iff]
    constructor
    · exact fun unscored => .inr ⟨g, ends, unscored⟩
    · rintro (⟨before, left, stops⟩ | ⟨g', ends', unscored⟩)
      · obtain ⟨f, refused⟩ := Game.advance_refused_iff.2 ⟨before, stops⟩
        cases ha.symm.trans refused
      · cases ha.symm.trans (Game.advance_accepted_iff.2 ends')
        exact unscored

/-! ## The invariant -/

/-- A proper change leaves games that can be presented. -/
theorem Presentable.change {c : Change} (presentable : s.Presentable) (proper : c.Proper s) :
    (c.after s).Presentable := by
  generalize c.after s = s', c.leads s = leads
  cases leads with
  | same => exact presentable
  | @created r h made =>
    exact presentable.insert (catalog_of_newGame presentable.usual made)
      (newGame_presentable presentable.usual made fun seat hs => (proper seat hs).2) _
  | finished =>
    refine ⟨presentable.usual, fun id' h there => ?_⟩
    rw [Table.get?_filterKeys] at there
    split at there
    · exact presentable.games id' h there
    · cases there
  | @operated id o h g hh ho =>
    exact presentable.withGame hh
      ((presentable.hosted hh).2.execute (proper h hh) (execute_of_operated ho))
  | ended hh ends =>
    obtain ⟨g, accepted, ended⟩ := (presentable.hosted hh).2.advance
    cases accepted.symm.trans (Game.advance_accepted_iff.2 ends)
    exact presentable.withGame hh ended
  | stopped hh stops =>
    -- a game that can be presented has nobody who cannot produce
    obtain ⟨g, accepted, -⟩ := (presentable.hosted hh).2.advance
    obtain ⟨f, refused⟩ := Game.advance_refused_iff.2 ⟨_, stops⟩
    cases accepted.symm.trans refused
  | moved hh ha hc =>
    exact presentable.withGame hh (presentable_of_attempt (presentable.hosted hh).2 ha hc)

/-- Every game of a service that was reached can be presented. -/
theorem Reached.presentable (reached : s.Reached) : s.Presentable := by
  induction reached with
  | fresh supply builtin => exact .fresh supply builtin
  | change _ proper ih => exact ih.change proper

/-! ## Answering -/

theorem answered_endGame (s : Service) (id : String) : Answered (s.endGame id).1 := by
  unfold endGame
  split
  next f missing => exact (answered_hosted s id).of_error missing
  next => exact .ok _

theorem Presentable.answered_applyOperation (presentable : s.Presentable)
    (proper : ∀ h, s.hosted id = .ok h → o.Proper h.game) :
    Answered (s.applyOperation id o).1 := by
  have next : Answered (do
      let h ← s.hosted id
      checkPlayer h o
      return (h, ← operated h o)) := by
    refine (answered_hosted s id).bind fun h hh => (answered_checkPlayer h o).bind fun _ hc => ?_
    exact (answered_operated (presentable.hosted hh).2.equipped hc).bind fun _ _ => .ok _
  unfold applyOperation
  dsimp only
  split
  next f refused => exact next.of_error refused
  next h g accepted =>
    obtain ⟨h', hh, accepted⟩ := bind_eq_ok.1 accepted
    obtain ⟨-, -, accepted⟩ := bind_eq_ok.1 accepted
    obtain ⟨g', ho, accepted⟩ := bind_eq_ok.1 accepted
    cases accepted
    exact answered_summary _ id
      ((presentable.hosted hh).2.execute (proper h hh) (execute_of_operated ho))

theorem Presentable.answered_advance (presentable : s.Presentable) (id : String) :
    Answered (s.advance id).1 := by
  cases hh : s.hosted id with
  | error f =>
    simp only [Service.advance, hh]
    exact (answered_hosted s id).of_error hh
  | ok h =>
    obtain ⟨g, accepted, ended⟩ := (presentable.hosted hh).2.advance
    rw [advance_of_ends hh (Game.advance_accepted_iff.1 accepted)]
    exact answered_summary _ id ended

theorem Presentable.answered_move (presentable : s.Presentable) (id : String) (m : MoveRequest) :
    Answered (s.move id m).1 := by
  have tried : Answered (do
      let h ← s.hostedFor id m.player
      return (h, ← attempt h m)) := by
    refine (answered_hostedFor s id m.player).bind fun h hf => ?_
    obtain ⟨hh, q, hq⟩ := hostedFor_eq_ok.1 hf
    exact (answered_attempt (presentable.hosted hh).2.regular hq).bind fun _ _ => .ok _
  unfold move
  dsimp only
  split
  next f refused => exact tried.of_error refused
  next h a comes =>
    obtain ⟨h', hf, comes⟩ := bind_eq_ok.1 comes
    obtain ⟨a', ha, comes⟩ := bind_eq_ok.1 comes
    cases comes
    have before := (presentable.hosted (hostedFor_eq_ok.1 hf).1).2
    split
    next g hg => exact (answered_summary _ id (presentable_of_attempt before ha hg)).map
    next => exact (answered_summary h id before).map

/-- A proper change is answered. -/
theorem Presentable.answered {c : Change} (presentable : s.Presentable) (proper : c.Proper s) :
    c.Answered s := by
  cases c with
  | create r =>
    intro e he
    obtain ⟨c, before, seat, after, -, split, -, -, owing⟩ :=
      (createGame_broken_iff presentable.usual).1 ⟨e, he⟩
    refine owing (proper seat ?_).1
    rw [split]
    exact List.mem_append_right _ List.mem_cons_self
  | finish id => exact answered_endGame s id
  | operate id o => exact presentable.answered_applyOperation proper
  | advance id => exact presentable.answered_advance id
  | move id m => exact presentable.answered_move id m

/-! ## Questions -/

/-- Every question about a game is answered. -/
structure AnswersQuestions (s : Service) : Prop where
  summary : ∀ id, Answered (s.summary id)
  snapshot : ∀ id, Answered (s.snapshot id)
  legalActions : ∀ id p, Answered (s.legalActions id p)
  victoryPoints : ∀ id, Answered (s.victoryPoints id)
  tileAt : ∀ id l, Answered (s.tileAt id l)
  search : ∀ id r, Answered (s.search id r)

/-- A search finds plays that can be summed up, or there are too many cards. -/
theorem found_cases {q : SearchRequest} {player : Player} {offered : List Card}
    (presentable : h.game.Presentable) (hq : h.game.player? q.player = some player)
    (builtIn : ∀ c ∈ offered, c.BuiltIn) :
    (∃ r, found h q offered = .error (.rejected r)) ∨
      ∃ plays, found h q offered = .ok plays ∧
        ∀ play ∈ plays, ∃ summary, playSummary q.player play = .ok summary := by
  by_cases few : offered.length ≤ maxOffered
  · have made : ∀ c ∈ offered, c.wellMade = true := fun c hc => (builtIn c hc).wellMade
    have scored : ∀ c ∈ offered, c.scorable = true := fun c hc =>
      (Card.scorable_normal c).symm.trans (builtIn c hc).scorable
    obtain ⟨mc, purse⟩ := presentable.purse hq
    obtain ⟨r, hr, possible⟩ := Game.searchGeneration_possible few hq purse
      (presentable.regular.answersInAnyOrder made) q.allOrderings
    refine .inr ⟨r.plays, by simp only [found, hr], fun play hplay => ?_⟩
    exact presentable.playSummary_answers made scored (possible play hplay)
  · refine .inl ⟨.misuse (.tooManyOffered offered.length), ?_⟩
    simp only [found, Game.searchGeneration, if_pos (Nat.lt_of_not_le few)]
    rfl

theorem Presentable.answered_search (presentable : s.Presentable) (id : String)
    (q : SearchRequest) : Answered (s.search id q) := by
  refine (answered_hostedFor s id q.player).bind fun h hf => ?_
  obtain ⟨hh, player, hq⟩ := hostedFor_eq_ok.1 hf
  obtain ⟨builtin, game⟩ := presentable.hosted hh
  refine (answered_resolve h.catalog q.offered).bind fun offered ho => ?_
  have builtIn : ∀ c ∈ offered, c.BuiltIn := fun c hc =>
    Catalog.builtIn_of_mem builtin ((resolve_eq_ok ho).2 c hc)
  rcases found_cases game hq builtIn with ⟨r, away⟩ | ⟨plays, found, summed⟩
  · rw [away, error_bind]
    exact .rejected r
  · rw [found, ok_bind]
    exact .unbroken (mapM_total summed)

/-- Where every game can be presented, every question is answered. -/
theorem Presentable.answersQuestions (presentable : s.Presentable) : s.AnswersQuestions where
  summary id := (answered_hosted s id).bind fun h hh =>
    answered_summary h id (presentable.hosted hh).2
  snapshot id := (answered_hosted s id).bind fun h hh => by
    obtain ⟨j, hj⟩ := (presentable.hosted hh).2.dump_answers
    rw [hj]
    exact .ok j
  legalActions id p := (answered_hostedFor s id p).bind fun h hf => by
    obtain ⟨hh, q, hq⟩ := hostedFor_eq_ok.1 hf
    obtain ⟨actions, listed, words, described⟩ :=
      (presentable.hosted hh).2.regular.legalActions_answers hq
    exact .unbroken ⟨words, by rw [listed, ok_bind, described]⟩
  victoryPoints id := (answered_hosted s id).bind fun h hh =>
    .unbroken (presentable.hosted hh).2.scores_answers
  tileAt id l := (answered_hosted s id).bind fun h _ =>
    (Answered.mapError_rejected fun r => r).bind fun location _ => by
      dsimp only
      split
      · exact .rejected _
      · exact .ok _
  search := presentable.answered_search

/-- **Requests are answered.**  A service that proper changes lead to from a fresh one, with a built-in
catalog, answers every question and every proper change, if only with a rejection; so no change that
it carries out leaves a game in which something breaks down later.  A new game breaks down exactly
when somebody starts with less than nothing, and nobody before is turned away; the end of a generation
exactly when somebody cannot produce, or the game cannot be scored then. -/
theorem reached_answers (s : Service) :
    (s.Reached → s.AnswersQuestions ∧ ∀ c : Change, c.Proper s → c.Answered s) ∧
    (∀ r : NewGame, s.usual ∈ Catalog.builtin →
      ((∃ e, (s.createGame r).1 = .error (.broken e)) ↔ s.Overdrawn r)) ∧
    ∀ (id : String) (h : Hosted), s.hosted id = .ok h →
      ((∃ e, (s.advance id).1 = .error (.broken e)) ↔
        (∃ before left, h.game.Stops before left) ∨ ∃ g, h.game.Ends g ∧ g.Unscored) := by
  refine ⟨fun reached => ?_, fun r usual => createGame_broken_iff usual,
    fun id h hh => advance_broken_iff hh⟩
  exact ⟨reached.presentable.answersQuestions, fun c proper => reached.presentable.answered proper⟩

/-- A game of one player, who starts without a steel that is not there. -/
def overdrawnGame : NewGame where
  seats := [{ player := 1, resources := [(.steel, -1)] }]

/-- A game of two players, the second of whom loses energy in every generation. -/
def powerlessGame : NewGame where
  seats := [{ player := 1 }, { player := 2, production := [(.energy, -5)] }]

theorem overdrawn_overdrawnGame : ({} : Service).Overdrawn overdrawnGame := by
  refine ⟨.base, [], { player := 1, resources := [(.steel, -1)] }, [], rfl, rfl, ?_, ?_, ?_⟩
  · exact List.forall_mem_nil _
  · exact List.forall_mem_nil _
  · exact fun solvent => absurd (solvent .steel) (by decide)

theorem proper_loneGame : (Change.create loneGame).Proper {} := by
  intro seat hs
  obtain rfl := List.mem_singleton.1 hs
  constructor <;> intro r <;> cases r <;> decide

/-- A game whose generation does not end has somebody who cannot produce. -/
theorem stops_of_isNone (h : g.advance.toExcept.toOption.isNone = true) :
    ∃ before left, g.Stops before left := by
  cases ha : g.advance with
  | accepted g' =>
    rw [ha] at h
    cases h
  | refused f left =>
    obtain ⟨before, stops⟩ := Game.advance_refused_iff.1 ⟨f, ha⟩
    exact ⟨before, left, stops⟩

/-- After a game that starts as `loneGame` says, a generation ends; `overdrawnGame` breaks down, and
so does the end of a generation in `indebted`. -/
theorem reached_answers_lone :
    (({} : Service).Reached ∧ (Change.create loneGame).Proper {} ∧
      ((Change.create loneGame).after {}).AnswersQuestions ∧
      (Change.advance (idOf 0)).Answered ((Change.create loneGame).after {})) ∧
    (∃ e, (({} : Service).createGame overdrawnGame).1 = .error (.broken e)) ∧
    ∃ e, (hostingIndebted.advance (idOf 0)).1 = .error (.broken e) := by
  have usual : ({} : Service).usual ∈ Catalog.builtin := List.mem_cons_self
  have reached : ((Change.create loneGame).after {}).Reached :=
    .change (.fresh idOf usual) proper_loneGame
  obtain ⟨questions, changes⟩ := (reached_answers _).1 reached
  obtain ⟨left, stops⟩ := indebted_stops
  exact ⟨⟨.fresh idOf usual, proper_loneGame, questions, changes (.advance (idOf 0)) trivial⟩,
    ((reached_answers {}).2.1 overdrawnGame usual).2 overdrawn_overdrawnGame,
    ((reached_answers hostingIndebted).2.2 (idOf 0) _ hosted_indebted).2 (.inl ⟨_, left, stops⟩)⟩

/-- `overdrawnGame` is not answered; `powerlessGame` is created, and then the end of its generation is
not answered. -/
theorem createGame_unanswered :
    ¬(Change.create overdrawnGame).Answered {} ∧
      (Change.create powerlessGame).made {} = true ∧
      ¬(Change.advance (idOf 0)).Answered ((Change.create powerlessGame).after {}) := by
  have usual : ({} : Service).usual ∈ Catalog.builtin := List.mem_cons_self
  have evaluated : (({} : Service).newGame powerlessGame).toOption.map
      (fun h => h.game.advance.toExcept.toOption.isNone) = some true := by
    decide +kernel
  obtain ⟨h, made, halts⟩ := Option.map_eq_some_iff.1 evaluated
  have made : ({} : Service).newGame powerlessGame = .ok h := toOption_eq_some.1 made
  refine ⟨fun answered => ?_, ?_, fun answered => ?_⟩
  · obtain ⟨e, he⟩ := (createGame_broken_iff usual).2 overdrawn_overdrawnGame
    exact answered e he
  · obtain ⟨ns, scores⟩ := newGame_scores usual made
    simp only [Change.made, createGame_of_newGame made, Hosted.summary, scores]
    rfl
  · have hh : ((Change.create powerlessGame).after {}).hosted (idOf 0) = .ok h := by
      rw [Change.after, createGame_of_newGame made]
      exact hosted_eq_ok.2 (Table.get?_insert_self _ _ _)
    obtain ⟨e, he⟩ := (advance_broken_iff hh).2 (.inl (stops_of_isNone halts))
    exact answered e he

end Service

end Terraforming
