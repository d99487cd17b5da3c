import Terraforming.Proofs.Game.GenerationEnd
import Terraforming.Service.Route

/-!
# What requests change

A request that changes something changes one game, and nearly always only if it is carried out.  There
are two ways in which a change that is answered with a failure shows all the same: the end of a
generation stops at a player who cannot produce, when others have produced before; and a game is in
its place before it turns out that it cannot be scored.

* `Change` — what can be asked to change, with its answer and the service afterwards;
* `Change.Slips` — the changes that show though they fail;
* `Change.Leads` — what a service can come to by a change;
* `Change.get?_after` — no change shows in a game other than its own;
* `Service.asks_answer` — what requests to routes come to;
* `Service.unmade_changed_iff` — only what slips shows and is not made.
-/

namespace Terraforming

open Service

/-! ## Changes -/

/-- What a service can be asked to change. -/
inductive Change where
  | create (r : NewGame)
  | finish (id : String)
  | operate (id : String) (o : Operation)
  | advance (id : String)
  | move (id : String) (r : MoveRequest)

namespace Change

/-- The id of the game that is to change; of a new game, the id that it gets. -/
def address (s : Service) : Change → String
  | create _ => s.supply s.created
  | finish id | operate id _ | advance id | move id _ => id

/-- The service afterwards. -/
def after (s : Service) : Change → Service
  | create r => (s.createGame r).2
  | finish id => (s.endGame id).2
  | operate id o => (s.applyOperation id o).2
  | advance id => (s.advance id).2
  | move id r => (s.move id r).2

/-- Whether the change is answered with what is there now.  A move that is not permitted, waits for a
decision or is only tried changes nothing and is not made. -/
def made (s : Service) : Change → Bool
  | create r => (s.createGame r).1.isOk
  | finish id => (s.endGame id).1.isOk
  | operate id o => (s.applyOperation id o).1.isOk
  | advance id => (s.advance id).1.isOk
  | move id r =>
    match (s.move id r).1 with
    | .ok a =>
      match a.attempt with
      | .complete _ _ => r.commit
      | _ => false
    | .error _ => false

end Change

/-- The game cannot be scored. -/
def Game.Unscored (g : Game) : Prop := ∃ f, g.scores = .error f

/-- A change that is not made and shows all the same. -/
inductive Change.Slips (s : Service) : Change → Prop
  /-- The new game is there and cannot be scored. -/
  | created {r : NewGame} {h : Hosted} : s.newGame r = .ok h → h.game.Unscored → Slips s (.create r)
  /-- The game is where the operation leads, and cannot be scored there. -/
  | operated {id : String} {o : Operation} {h : Hosted} {g : Game} : s.hosted id = .ok h →
      checkPlayer h o = .ok () → operated h o = .ok g → g.Unscored → Slips s (.operate id o)
  /-- The game is where the move leads, and cannot be scored there. -/
  | moved {id : String} {r : MoveRequest} {h : Hosted} {a : Attempt} {g : Game} :
      s.hostedFor id r.player = .ok h → attempt h r = .ok a → committed? r a = some g → g ≠ h.game →
      g.Unscored → Slips s (.move id r)
  /-- The generation has ended, and the game cannot be scored. -/
  | ended {id : String} {h : Hosted} {g : Game} : s.hosted id = .ok h → h.game.Ends g →
      g.Unscored → Slips s (.advance id)
  /-- Some players have produced, and the next one cannot. -/
  | stopped {id : String} {h : Hosted} {before : List PlayerId} {left : Game} :
      s.hosted id = .ok h → h.game.Stops before left → before ≠ [] → Slips s (.advance id)

/-! ## The service with a game in another state -/

namespace Service

variable {s : Service} {id id' : String} {h : Hosted} {g : Game}

theorem hosted_eq_ok : s.hosted id = .ok h ↔ s.games.get? id = some h := by
  unfold hosted
  cases s.games.get? id <;> simp

theorem hostedFor_eq_ok {p : PlayerId} :
    s.hostedFor id p = .ok h ↔ s.hosted id = .ok h ∧ ∃ q, h.game.player? p = some q := by
  unfold hostedFor
  simp only [bind_eq_ok]
  constructor
  · rintro ⟨h', hh, rest⟩
    cases hq : h'.game.player? p with
    | none => simp [hq] at rest
    | some q =>
      simp only [hq] at rest
      cases rest
      exact ⟨hh, q, hq⟩
  · rintro ⟨hh, q, hq⟩
    refine ⟨h, hh, ?_⟩
    rw [hq]
    rfl

theorem get?_withGame_of_ne (other : id' ≠ id) (h : Hosted) (g : Game) :
    (s.withGame id h g).games.get? id' = s.games.get? id' :=
  Table.get?_insert_of_ne s.games _ other

/-- The service stays the same exactly when the game does. -/
theorem withGame_eq_self (hh : s.hosted id = .ok h) : s.withGame id h g = s ↔ g = h.game := by
  have there := hosted_eq_ok.1 hh
  constructor
  · intro same
    have here : (s.withGame id h g).games.get? id = some { h with game := g } :=
      Table.get?_insert_self s.games id _
    rw [same, there] at here
    exact (congrArg Hosted.game (Option.some.inj here)).symm
  · rintro rfl
    have same : s.games.insert id h = s.games := by
      refine Table.ext_get? fun id' => ?_
      rw [Table.get?_insert]
      split
      next here => rw [here, there]
      next => rfl
    show { s with games := s.games.insert id h } = s
    rw [same]

end Service

theorem Hosted.isOk_summary {h : Hosted} {id : String} :
    (h.summary id).isOk = false ↔ h.game.Unscored := by
  unfold Hosted.summary unbroken Game.Unscored
  cases h.game.scores <;> simp [Except.mapError, Except.isOk, Except.toBool]

/-! ## The cases of each change -/

namespace Service

variable {s : Service} {id : String} {h : Hosted} {g left : Game} {r : NewGame} {o : Operation}
  {m : MoveRequest} {a : Attempt} {before : List PlayerId}

theorem createGame_of_newGame (made : s.newGame r = .ok h) :
    s.createGame r = (h.summary (s.supply s.created),
      { s with games := s.games.insert (s.supply s.created) h, created := s.created + 1 }) := by
  simp only [createGame, made]

theorem createGame_cases (s : Service) (r : NewGame) :
    (∃ f, s.createGame r = (.error f, s)) ∨ ∃ h, s.newGame r = .ok h := by
  cases made : s.newGame r with
  | error f =>
    refine .inl ⟨f, ?_⟩
    simp only [createGame, made]
  | ok h => exact .inr ⟨h, rfl⟩

theorem endGame_cases (s : Service) (id : String) :
    (∃ f, s.endGame id = (.error f, s)) ∨
      s.endGame id = (.ok (), { s with games := s.games.filterKeys (· ≠ id) }) := by
  unfold endGame
  cases s.hosted id with
  | error f => exact .inl ⟨f, rfl⟩
  | ok h => exact .inr rfl

theorem applyOperation_of_operated (hh : s.hosted id = .ok h) (hc : checkPlayer h o = .ok ())
    (ho : operated h o = .ok g) :
    s.applyOperation id o = (({ h with game := g } : Hosted).summary id, s.withGame id h g) := by
  simp only [applyOperation, hh, ok_bind, hc, ho, pure_eq_ok]

theorem applyOperation_cases (s : Service) (id : String) (o : Operation) :
    (∃ f, s.applyOperation id o = (.error f, s)) ∨
      ∃ h g, s.hosted id = .ok h ∧ checkPlayer h o = .ok () ∧ operated h o = .ok g := by
  cases hh : s.hosted id with
  | error f =>
    refine .inl ⟨f, ?_⟩
    simp only [applyOperation, hh, error_bind]
  | ok h =>
    cases hc : checkPlayer h o with
    | error f =>
      refine .inl ⟨f, ?_⟩
      simp only [applyOperation, hh, ok_bind, hc, error_bind]
    | ok u =>
      cases ho : operated h o with
      | error f =>
        refine .inl ⟨f, ?_⟩
        simp only [applyOperation, hh, ok_bind, hc, ho, error_bind]
      | ok g => exact .inr ⟨h, g, rfl, hc, ho⟩

theorem advance_of_ends (hh : s.hosted id = .ok h) (ends : h.game.Ends g) :
    s.advance id = (({ h with game := g } : Hosted).summary id, s.withGame id h g) := by
  simp only [Service.advance, hh, Game.advance_accepted_iff.2 ends]

theorem advance_of_stops (hh : s.hosted id = .ok h) (stops : h.game.Stops before left) :
    ∃ f, s.advance id = (.error f, s.withGame id h left) := by
  obtain ⟨f, refused⟩ := Game.advance_refused_iff.2 ⟨before, stops⟩
  refine ⟨.ofFault f, ?_⟩
  simp only [Service.advance, hh, refused]

theorem advance_cases (s : Service) (id : String) :
    (∃ f, s.advance id = (.error f, s)) ∨
      ∃ h, s.hosted id = .ok h ∧
        ((∃ g, h.game.Ends g) ∨ ∃ before left, h.game.Stops before left) := by
  cases hh : s.hosted id with
  | error f =>
    refine .inl ⟨f, ?_⟩
    simp only [Service.advance, hh]
  | ok h =>
    refine .inr ⟨h, rfl, ?_⟩
    cases ha : h.game.advance with
    | accepted g => exact .inl ⟨g, Game.advance_accepted_iff.1 ha⟩
    | refused f left =>
      obtain ⟨before, stops⟩ := Game.advance_refused_iff.1 ⟨f, ha⟩
      exact .inr ⟨before, left, stops⟩

theorem move_of_committed (hh : s.hostedFor id m.player = .ok h) (ha : attempt h m = .ok a)
    (hc : committed? m a = some g) :
    s.move id m = ((({ h with game := g } : Hosted).summary id).map fun summary => ⟨a, true, summary⟩,
      s.withGame id h g) := by
  simp only [move, hh, ok_bind, ha, pure_eq_ok, hc]

theorem move_of_uncommitted (hh : s.hostedFor id m.player = .ok h) (ha : attempt h m = .ok a)
    (hc : committed? m a = none) :
    s.move id m = ((h.summary id).map fun summary => ⟨a, false, summary⟩, s) := by
  simp only [move, hh, ok_bind, ha, pure_eq_ok, hc]

theorem move_cases (s : Service) (id : String) (m : MoveRequest) :
    (∃ f, s.move id m = (.error f, s)) ∨
      ∃ h a, s.hostedFor id m.player = .ok h ∧ attempt h m = .ok a := by
  cases hh : s.hostedFor id m.player with
  | error f =>
    refine .inl ⟨f, ?_⟩
    simp only [move, hh, error_bind]
  | ok h =>
    cases ha : attempt h m with
    | error f =>
      refine .inl ⟨f, ?_⟩
      simp only [move, hh, ok_bind, ha, error_bind]
    | ok a => exact .inr ⟨h, a, rfl, ha⟩

/-- Only a complete attempt that the request asks to keep is kept. -/
theorem committed?_eq_some :
    committed? m a = some g ↔ m.commit = true ∧ ∃ ops, a = .complete ops g := by
  cases a with
  | complete ops g' =>
    unfold committed?
    cases m.commit <;> simp
  | _ => simp [committed?]

end Service

/-! ## Changes that are not made -/

namespace Change

variable {s : Service} {c : Change}

theorem game_ne_of_log_ne {g g' : Game} (h : g'.log ≠ g.log) : g' ≠ g :=
  fun same => h (congrArg Game.log same)

theorem operated_ne {h : Hosted} {o : Operation} {g : Game} (ho : operated h o = .ok g) :
    g ≠ h.game := by
  have accepted : (h.game.execute o).toExcept = .ok g := by
    unfold operated at ho
    split at ho
    next found =>
      rw [found]
      exact congrArg Except.ok (Except.ok.inj ho)
    · cases ho
    · cases ho
  refine game_ne_of_log_ne ?_
  rw [Game.log_execute (Game.toExcept_eq_ok.1 accepted)]
  exact fun same => List.cons_ne_nil o [] (List.append_right_eq_self.1 same)

theorem ends_ne {g g' : Game} (ends : g.Ends g') : g' ≠ g := by
  intro same
  have next : g.generation + 1 = g.generation := by
    conv_rhs => rw [← same, ends.rest]
  omega

theorem stops_ne_iff {g left : Game} {before : List PlayerId} (stops : g.Stops before left) :
    left ≠ g ↔ before ≠ [] := by
  constructor
  · rintro changed rfl
    exact changed (stops.pays.unique (.nil g))
  · intro some
    refine game_ne_of_log_ne ?_
    rw [stops.pays.rest]
    exact fun same => some (List.map_eq_nil_iff.1 (List.append_right_eq_self.1 same))

/-- A change that slips is not made, and shows. -/
theorem Slips.unmade_changed (slips : c.Slips s) : c.made s = false ∧ c.after s ≠ s := by
  cases slips with
  | created made unscored =>
    have there := createGame_of_newGame made
    rw [Change.made, after, there]
    refine ⟨Hosted.isOk_summary.2 unscored, fun same => ?_⟩
    exact Nat.succ_ne_self s.created (congrArg Service.created same)
  | operated hh hc ho unscored =>
    rw [made, after, applyOperation_of_operated hh hc ho]
    exact ⟨Hosted.isOk_summary.2 unscored, fun same => operated_ne ho ((withGame_eq_self hh).1 same)⟩
  | @moved id r h a g hh ha hc changed unscored =>
    have unmade : (({ h with game := g } : Hosted).summary id).isOk = false :=
      Hosted.isOk_summary.2 unscored
    rw [made, after, move_of_committed hh ha hc]
    refine ⟨?_, fun same => changed ((withGame_eq_self (hostedFor_eq_ok.1 hh).1).1 same)⟩
    cases failed : ({ h with game := g } : Hosted).summary id with
    | error f => rfl
    | ok summary =>
      rw [failed] at unmade
      cases unmade
  | ended hh ends unscored =>
    rw [made, after, Service.advance_of_ends hh ends]
    exact ⟨Hosted.isOk_summary.2 unscored, fun same => ends_ne ends ((withGame_eq_self hh).1 same)⟩
  | stopped hh stops some =>
    obtain ⟨f, refused⟩ := Service.advance_of_stops hh stops
    rw [made, after, refused]
    exact ⟨rfl, fun same => (stops_ne_iff stops).2 some ((withGame_eq_self hh).1 same)⟩

/-- A change that is not made and shows all the same slips. -/
theorem slips_of_unmade (unmade : c.made s = false) (changed : c.after s ≠ s) : c.Slips s := by
  cases c with
  | create r =>
    rcases createGame_cases s r with ⟨f, refused⟩ | ⟨h, made⟩
    · exact absurd (congrArg Prod.snd refused) changed
    · rw [Change.made, createGame_of_newGame made] at unmade
      exact .created made (Hosted.isOk_summary.1 unmade)
  | finish id =>
    rcases endGame_cases s id with ⟨f, refused⟩ | ended
    · exact absurd (congrArg Prod.snd refused) changed
    · rw [made, ended] at unmade
      cases unmade
  | operate id o =>
    rcases applyOperation_cases s id o with ⟨f, refused⟩ | ⟨h, g, hh, hc, ho⟩
    · exact absurd (congrArg Prod.snd refused) changed
    · rw [made, applyOperation_of_operated hh hc ho] at unmade
      exact .operated hh hc ho (Hosted.isOk_summary.1 unmade)
  | advance id =>
    rcases advance_cases s id with ⟨f, refused⟩ | ⟨h, hh, ⟨g, ends⟩ | ⟨before, left, stops⟩⟩
    · exact absurd (congrArg Prod.snd refused) changed
    · rw [made, Service.advance_of_ends hh ends] at unmade
      exact .ended hh ends (Hosted.isOk_summary.1 unmade)
    · obtain ⟨f, refused⟩ := Service.advance_of_stops hh stops
      rw [after, refused] at changed
      have other : left ≠ h.game := fun same => changed ((withGame_eq_self hh).2 same)
      exact .stopped hh stops ((stops_ne_iff stops).1 other)
  | move id m =>
    rcases move_cases s id m with ⟨f, refused⟩ | ⟨h, a, hh, ha⟩
    · exact absurd (congrArg Prod.snd refused) changed
    · cases hc : committed? m a with
      | none =>
        rw [after, move_of_uncommitted hh ha hc] at changed
        exact absurd rfl changed
      | some g =>
        rw [after, move_of_committed hh ha hc] at changed
        rw [made, move_of_committed hh ha hc] at unmade
        have other : g ≠ h.game :=
          fun same => changed ((withGame_eq_self (hostedFor_eq_ok.1 hh).1).2 same)
        obtain ⟨keep, ops, rfl⟩ := committed?_eq_some.1 hc
        have unscored : (({ h with game := g } : Hosted).summary id).isOk = false := by
          cases scored : ({ h with game := g } : Hosted).summary id with
          | error f => rfl
          | ok summary =>
            rw [scored] at unmade
            exact absurd (keep.symm.trans unmade) Bool.noConfusion
        exact .moved hh ha hc other (Hosted.isOk_summary.1 unscored)

/-! ## What a change leads to -/

/-- What a service can come to by a change, with the ways in which a game can become another. -/
inductive Leads (s : Service) : Change → Service → Prop
  | same {c : Change} : Leads s c s
  | created {r : NewGame} {h : Hosted} : s.newGame r = .ok h → Leads s (.create r)
      { s with games := s.games.insert (s.supply s.created) h, created := s.created + 1 }
  | finished {id : String} :
      Leads s (.finish id) { s with games := s.games.filterKeys (· ≠ id) }
  | operated {id : String} {o : Operation} {h : Hosted} {g : Game} : s.hosted id = .ok h →
      operated h o = .ok g → Leads s (.operate id o) (s.withGame id h g)
  | ended {id : String} {h : Hosted} {g : Game} : s.hosted id = .ok h → h.game.Ends g →
      Leads s (.advance id) (s.withGame id h g)
  | stopped {id : String} {h : Hosted} {before : List PlayerId} {left : Game} :
      s.hosted id = .ok h → h.game.Stops before left →
      Leads s (.advance id) (s.withGame id h left)
  | moved {id : String} {r : MoveRequest} {h : Hosted} {a : Attempt} {g : Game} :
      s.hosted id = .ok h → attempt h r = .ok a → committed? r a = some g →
      Leads s (.move id r) (s.withGame id h g)

theorem leads (s : Service) (c : Change) : c.Leads s (c.after s) := by
  cases c with
  | create r =>
    rcases createGame_cases s r with ⟨f, refused⟩ | ⟨h, made⟩
    · rw [after, refused]
      exact .same
    · rw [after, createGame_of_newGame made]
      exact .created made
  | finish id =>
    rcases endGame_cases s id with ⟨f, refused⟩ | ended
    · rw [after, refused]
      exact .same
    · rw [after, ended]
      exact .finished
  | operate id o =>
    rcases applyOperation_cases s id o with ⟨f, refused⟩ | ⟨h, g, hh, hc, ho⟩
    · rw [after, refused]
      exact .same
    · rw [after, applyOperation_of_operated hh hc ho]
      exact .operated hh ho
  | advance id =>
    rcases advance_cases s id with ⟨f, refused⟩ | ⟨h, hh, ⟨g, ends⟩ | ⟨before, left, stops⟩⟩
    · rw [after, refused]
      exact .same
    · rw [after, Service.advance_of_ends hh ends]
      exact .ended hh ends
    · obtain ⟨f, refused⟩ := Service.advance_of_stops hh stops
      rw [after, refused]
      exact .stopped hh stops
  | move id m =>
    rcases move_cases s id m with ⟨f, refused⟩ | ⟨h, a, hf, ha⟩
    · rw [after, refused]
      exact .same
    · cases hc : committed? m a with
      | none =>
        rw [after, move_of_uncommitted hf ha hc]
        exact .same
      | some g =>
        rw [after, move_of_committed hf ha hc]
        exact .moved (hostedFor_eq_ok.1 hf).1 ha hc

theorem Leads.get? {s' : Service} {id : String} (leads : c.Leads s s') (other : id ≠ c.address s) :
    s'.games.get? id = s.games.get? id := by
  cases leads with
  | same => rfl
  | created => exact Table.get?_insert_of_ne s.games _ other
  | finished => exact (Table.get?_filterKeys s.games _ id).trans (if_pos (decide_eq_true other))
  | operated | ended | stopped | moved => exact get?_withGame_of_ne other _ _

/-- No other game changes. -/
theorem get?_after (s : Service) (c : Change) {id : String} (other : id ≠ c.address s) :
    (c.after s).games.get? id = s.games.get? id :=
  (c.leads s).get? other

end Change

/-! ## Requests -/

namespace Change

/-- How a change is answered over a route. -/
def reply (s : Service) : Change → Reply
  | create r => .ofResult GameSummary.json (s.createGame r).1
  | finish id => .ofResult (fun _ => endedJson id) (s.endGame id).1
  | operate id o => .ofResult GameSummary.json (s.applyOperation id o).1
  | advance id => .ofResult GameSummary.json (s.advance id).1
  | move id r => .ofResult MoveAnswer.json (s.move id r).1

theorem answered_of_isOk {α : Type} {json : α → Json} {x : Except Failure α} (ok : x.isOk = true) :
    ∃ body, Reply.ofResult json x = .answered 200 body := by
  cases x with
  | ok a => exact ⟨json a, rfl⟩
  | error f => cases ok

/-- A change that is made is answered as a success. -/
theorem answered_of_made {s : Service} {c : Change} (made : c.made s = true) :
    ∃ body, c.reply s = .answered 200 body := by
  cases c with
  | move id r =>
    refine answered_of_isOk ?_
    rw [Change.made] at made
    cases found : (s.move id r).1 with
    | ok a => rfl
    | error f =>
      rw [found] at made
      cases made
  | _ => exact answered_of_isOk made

end Change

namespace Service

variable {s : Service}

theorem reading_cases {α : Type} (s : Service) (e : Except Reply α) (f : α → Reply × Service) :
    (s.reading e f).2 = s ∨ ∃ a, s.reading e f = f a := by
  cases e with
  | error reply => exact .inl rfl
  | ok a => exact .inr ⟨a, rfl⟩

/-- A request changes nothing, or it asks for a change and is answered so. -/
def Asks (s : Service) (answered : Reply × Service) : Prop :=
  answered.2 = s ∨ ∃ c : Change, answered = (c.reply s, c.after s)

theorem Asks.reading {α : Type} {e : Except Reply α} {f : α → Reply × Service}
    (each : ∀ a, s.Asks (f a)) : s.Asks (s.reading e f) := by
  rcases reading_cases s e f with unread | ⟨a, read⟩
  · exact .inl unread
  · rw [read]
    exact each a

theorem asks_answerGame (limits : Json.Limits) (id : String) (part : GameRoute) (t : Target)
    (r : Request) : s.Asks (s.answerGame limits id part t r) := by
  unfold answerGame
  split
  · exact .inl rfl
  · exact .inr ⟨.finish id, rfl⟩
  · exact .inl rfl
  · exact .reading fun o => .inr ⟨.operate id o, rfl⟩
  · exact .inr ⟨.advance id, rfl⟩
  · exact .reading fun m => .inr ⟨.move id m, rfl⟩
  · exact .reading fun m => .inr ⟨.move id m, rfl⟩
  · exact .reading fun p => .inl rfl
  · exact .reading fun m => .inr ⟨.move id m, rfl⟩
  · exact .inl rfl
  · exact .reading fun l => .inl rfl
  · exact .reading fun q => .inl rfl
  · exact .inl rfl

theorem asks_answer (r : Request) (through : Channel) : s.Asks (s.answer r through) := by
  unfold answer
  split
  · exact .inl rfl
  · split
    next route t found =>
      unfold answerRoute
      split
      · exact asks_answerGame _ _ _ _ _
      · exact .inl rfl
      · exact .reading fun g => .inr ⟨.create g, rfl⟩
      · exact .inl rfl
      · exact .inl rfl
      · exact .inl rfl
    · exact .inl rfl

/-- **What shows of a request that does not succeed.**  A change that is not made leaves the service as
it was, unless it slips; no change shows in any other game.  A request over a route changes nothing,
or it asks for a change that is made and answered as a success, or for one that slips, whatever channel
it comes through.  A generation ends for everybody, or it stops at the first player who cannot
produce. -/
theorem unmade_changed_iff (s : Service) :
    (∀ c : Change, (c.made s = false ∧ c.after s ≠ s ↔ c.Slips s) ∧
      ∀ id, id ≠ c.address s → (c.after s).games.get? id = s.games.get? id) ∧
    (∀ (r : Request) (through : Channel), (s.answer r through).2 = s ∨
      ∃ c : Change, s.answer r through = (c.reply s, c.after s) ∧
        ((c.made s = true ∧ ∃ body, c.reply s = .answered 200 body) ∨
          c.made s = false ∧ c.Slips s)) ∧
    ∀ g : Game, (∃ g', g.advance = .accepted g' ∧ g.Ends g') ∨
      ∃ f before left, g.advance = .refused f left ∧ g.Stops before left := by
  refine ⟨fun c => ⟨⟨fun h => c.slips_of_unmade h.1 h.2, Change.Slips.unmade_changed⟩, ?_⟩,
    fun r through => ?_, fun g => ?_⟩
  · intro id other
    exact c.get?_after s other
  · rcases s.asks_answer r through with same | ⟨c, asked⟩
    · exact .inl same
    · by_cases same : c.after s = s
      · refine .inl ?_
        rw [asked]
        exact same
      · refine .inr ⟨c, asked, ?_⟩
        cases made : c.made s with
        | true => exact .inl ⟨rfl, Change.answered_of_made made⟩
        | false => exact .inr ⟨rfl, c.slips_of_unmade made same⟩
  · cases h : g.advance with
    | accepted g' => exact .inl ⟨g', rfl, Game.advance_accepted_iff.1 h⟩
    | refused f left =>
      obtain ⟨before, stops⟩ := Game.advance_refused_iff.1 ⟨f, h⟩
      exact .inr ⟨f, before, left, rfl, stops⟩

/-- A game of two players, the second of whom loses more energy than there is. -/
def indebted : Game where
  board := .standard
  players := Table.ofList
    [(1, { id := 1 }), (2, { id := 2, production := Pool.zero.insert .energy (-5) })]

/-- A service with that game, and with an empty one. -/
def hostingIndebted : Service where
  games := Table.ofList [(idOf 0, { catalog := .base, game := indebted }),
    (idOf 1, { catalog := .base, game := { board := .standard, players := ∅ } })]
  created := 2

/-- Only the second player of `indebted` cannot produce. -/
theorem indebted_stops : ∃ left, indebted.Stops [1] left := by
  have first : indebted.player? 1 = some { id := 1 } := by decide +kernel
  have second : indebted.player? 2 =
      some { id := 2, production := Pool.zero.insert .energy (-5) } := by
    decide +kernel
  have can : ∀ p ∈ [(1 : PlayerId)], ∀ q, indebted.player? p = some q → q.CanProduce := by
    rintro p hp q hq r
    rw [List.mem_singleton.1 hp, first] at hq
    cases hq
    cases r <;> decide
  have cannot : ¬Player.CanProduce { id := 2, production := Pool.zero.insert .energy (-5) } :=
    fun can => absurd (can .energy) (by decide)
  have split : indebted.playerIds = [1] ++ 2 :: [] := rfl
  obtain ⟨v, left, refused, pays⟩ := Game.advance_of_first split can second cannot
  exact ⟨left, can, ⟨2, [], _, rfl, second, cannot⟩, pays⟩

theorem hosted_indebted :
    hostingIndebted.hosted (idOf 0) = .ok { catalog := .base, game := indebted } := by
  have there : hostingIndebted.games.get? (idOf 0) = some { catalog := .base, game := indebted } :=
    rfl
  exact hosted_eq_ok.2 there

/-- The generation does not end in `indebted`, and its first player has produced all the same. -/
theorem advance_pays_one :
    (Change.advance (idOf 0)).made hostingIndebted = false ∧
      (Change.advance (idOf 0)).after hostingIndebted ≠ hostingIndebted ∧
      (((Change.advance (idOf 0)).after hostingIndebted).games.get? (idOf 0)).map (·.game.log) =
        some [.produce 1] := by
  obtain ⟨left, stops⟩ := indebted_stops
  have slips : (Change.advance (idOf 0)).Slips hostingIndebted :=
    .stopped hosted_indebted stops (List.cons_ne_nil 1 [])
  obtain ⟨unmade, changed⟩ := slips.unmade_changed
  obtain ⟨f, left_there⟩ := Service.advance_of_stops hosted_indebted stops
  refine ⟨unmade, changed, ?_⟩
  rw [Change.after, left_there, withGame, Table.get?_insert_self]
  show some left.log = _
  rw [stops.pays.rest]
  rfl

/-- One game changes, though its generation does not end, and the other one is as it was. -/
theorem unmade_changed_iff_indebted :
    ((Change.advance (idOf 0)).made hostingIndebted = false ∧
      (Change.advance (idOf 0)).after hostingIndebted ≠ hostingIndebted) ∧
    idOf 1 ≠ (Change.advance (idOf 0)).address hostingIndebted ∧
      ∃ h, hostingIndebted.games.get? (idOf 1) = some h ∧
        ((Change.advance (idOf 0)).after hostingIndebted).games.get? (idOf 1) = some h := by
  obtain ⟨left, stops⟩ := indebted_stops
  obtain ⟨slips, others⟩ := (unmade_changed_iff hostingIndebted).1 (.advance (idOf 0))
  have other : idOf 1 ≠ (Change.advance (idOf 0)).address hostingIndebted := by decide +kernel
  have there : hostingIndebted.games.get? (idOf 1) =
      some { catalog := .base, game := { board := .standard, players := ∅ } } := by
    rfl
  exact ⟨slips.2 (.stopped hosted_indebted stops (List.cons_ne_nil 1 [])), other, _, there,
    (others (idOf 1) other).trans there⟩

end Service

end Terraforming
