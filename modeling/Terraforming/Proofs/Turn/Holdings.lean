import Terraforming.Proofs.Turn.Rooted

/-!
# Cards and the resources that they hold

A card holds one kind of resources, and what it prints may ask it to hold another.  In play this comes to
light when the operation is refused, possibly in the turn of somebody else.  Every such refusal goes back
to a card that refers to several kinds, to resources that had been put on a card that does not hold them,
or to a bonus of the board; and a card without defects refers to one kind only if its effects do.

* `Game.takeTurn_explained` — every turn;
* `Game.Playthrough.rooted` — what is left open on the way;
* `Game.one_kind_of_resources` — cards, and all of play;
* `Game.broodery_misfits` — a card without defects that asks for two kinds.
-/

namespace Terraforming

open Operation (Balanced Aside)

/-! ## Turns -/

theorem Apt.explained {α : Type} {x : Except Fault α} (h : Apt x) (g : Game) :
    Gives x (fun _ => True) g.Explains :=
  Gives.imp h fun _ => Game.explains_of_apt

/-- Operations with reasons, on the way of an attempt. -/
theorem Progress.emit_explained {p : Progress} (printed : p.game.Printed) (ops : List Operation)
    (balanced : Balanced ops) (justified : p.game.Justifies p.game.board ops) :
    Gives (p.emit ops) (fun p' => p.game.executeAll ops = .accepted p'.game ∧ p'.game.Printed)
      p.game.Explains := by
  have emits := Progress.emit_gives (Game.executeAll_explained (.refl printed) balanced justified)
  cases done : p.emit ops with
  | error f => exact emits.fails done
  | ok p' => exact .ok ⟨(Progress.emit_eq_ok.1 done).1, (emits.holds done).printed⟩

namespace Game

variable {g : Game} {p : PlayerId} {q : Player} {c : Card} {cs : List Choice} {started : Progress}
  {s : Int} {d : PlayedCard} {a : Action} {ops : List Operation} {impacts : List Impact}

theorem player_explained (g : Game) (p : PlayerId) :
    Gives (g.player p) (fun q => g.player? p = some q) g.Explains := by
  cases hq : g.player p with
  | ok q => exact .ok (player_eq_ok.1 hq)
  | error f => exact .error (explains_of_apt ((g.player_apt p).fails hq))

theorem types_paymentOps (p : PlayerId) (payment : Pool) :
    ∀ o ∈ paymentOps p payment, o.type ≠ .changeCardResource := by
  intro o ho
  obtain ⟨r, -, rfl⟩ := List.mem_map.1 ho
  rintro ⟨⟩

theorem justifies_entryOps (b : Board) (g : Game) (p : PlayerId) (q : Player) (c : Card)
    (payment : Pool) : g.Justifies b (entryOps p q c payment) := by
  refine justifies_of_types fun o ho => ?_
  simp only [entryOps, List.mem_append, paymentOps, List.mem_map, List.mem_singleton] at ho
  rcases ho with (((⟨_, -, rfl⟩ | rfl) | used) | ⟨e, -, rfl⟩) | ⟨_, -, rfl⟩
  · rintro ⟨⟩
  · rintro ⟨⟩
  · split at used
    · cases used
    · rw [List.mem_singleton.1 used]
      rintro ⟨⟩
  · rintro ⟨⟩
  · rintro ⟨⟩

theorem justifies_reactionsToCard (b : Board) (g : Game) (p : PlayerId) (c : Card) :
    g.Justifies b (g.reactionsToCard p c) := by
  refine justifies_of_types fun o ho => ?_
  obtain ⟨r, q, a, -, -, -, ⟨-, rfl⟩ | ⟨-, rfl⟩⟩ := mem_reactionsToCard ho <;> rintro ⟨⟩

/-! ### Playing a card -/

/-- What a card in play causes when it is played is printed on it. -/
theorem rooted_of_mem_playImpacts {i : Impact} (hq : g.player? p = some q) (hd : q.played? s = some d)
    (hi : i ∈ playImpacts d.card) : i.Throughout (·.Rooted g p (some s)) := by
  intro j hj type
  refine .inr fun s' here => ?_
  cases here
  rcases List.mem_append.1 hi with hi | hi
  · have printed := Impact.walk_subset_of_mem_impacts hi hj
    exact ⟨q, d, hq, hd, d.card.mem_selfKinds_of_impact printed type⟩
  · obtain ⟨r, -, rfl⟩ := List.mem_map.1 hi
    rw [List.mem_singleton.1 hj] at type
    cases type

theorem playCard_explained (printed : g.Printed) (p : PlayerId) (c : Card) (cs : List Choice) :
    Gives (g.playCard p c cs) (·.Rooted p) g.Explains := by
  unfold playCard
  refine (g.player_explained p).bind fun q hq => ?_
  have refusal : Apt (g.playRefusal? q c) :=
    .ite (.ok _) ((q.unmetRequirements_apt g.board c).bind fun reasons => .ite (.ok _) (.ok _))
  refine (refusal.explained g).bind fun refusal _ => ?_
  cases refusal with
  | some r => exact .ok nofun
  | none =>
    refine ((q.paymentFor_apt (q.effectiveCost c)).explained g).bind fun payment _ => ?_
    cases payment with
    | none => exact .ok nofun
    | some payment =>
      have enters := Progress.emit_explained (p := { game := g }) printed
        (entryOps p q c payment) (balanced_entryOps p q c payment)
        (justifies_entryOps g.board g p q c payment)
      refine enters.bind ?_
      rintro entered ⟨leads, printed⟩
      -- now the card is in play, under an id of its own
      obtain ⟨q', hq', played, -⟩ := (cardEnters_entryOps hq leads).player
      have last : ⟨q.nextInstance, c⟩ ∈ q'.played := played ▸ List.mem_concat_self
      have hd := Player.played?_of_mem (printed p q' hq').distinct last
      refine Gives.imp ?_ fun _ => .before leads
      have reacts := Progress.emit_explained printed (entered.game.reactionsToCard p c)
        (entered.game.aside_reactionsToCard p c).balanced
        (justifies_reactionsToCard entered.game.board entered.game p c)
      refine reacts.bind ?_
      rintro ready ⟨leads, printed⟩
      refine Gives.imp (Impact.resolve_explained printed (fun i hi j hj => ?_) cs) fun _ => .before leads
      exact (rooted_of_mem_playImpacts hq' hd hi j hj).mono leads

/-! ### Using an action -/

theorem payAndResolve_explained (printed : started.game.Printed) (aside : Aside ops)
    (justified : started.game.Justifies started.game.board ops)
    (rooted : ∀ i ∈ impacts, i.Throughout (·.Rooted started.game p (some s))) (cs : List Choice) :
    Gives (payAndResolve p s ops impacts cs started) (·.Rooted p) started.game.Explains := by
  refine (Progress.emit_explained printed ops aside.balanced justified).bind ?_
  rintro paid ⟨leads, printed⟩
  refine Gives.imp (Impact.resolve_explained printed (fun i hi j hj => ?_) cs) fun _ => .before leads
  exact (rooted i hi j hj).mono leads

theorem revealCard_explained {payment : Pool} (printed : started.game.Printed)
    (rooted : ∀ i ∈ a.impacts, i.Throughout (·.Rooted started.game p (some s))) (cs : List Choice) :
    Gives (revealCard p s payment a cs started) (·.Rooted p) started.game.Explains := by
  unfold revealCard
  refine .ite (.ok nofun) ?_
  have aside : Aside (paymentOps p payment ++ [.drawCards p 1]) :=
    (aside_paymentOps p payment).append (.singleton rfl)
  have draws := Progress.emit_explained printed (paymentOps p payment ++ [.drawCards p 1]) aside.balanced
    (justifies_of_types (List.forall_mem_append.2 ⟨types_paymentOps p payment,
      List.forall_mem_singleton.2 (by rintro ⟨⟩)⟩))
  refine draws.bind ?_
  rintro drawn ⟨drew, printed⟩
  refine Gives.imp ?_ fun _ => .before drew
  refine (drawn.game.player_explained p).bind fun q hq => ?_
  split
  · exact .error (explains_of_apt rfl)
  next card top =>
    have lays := Progress.emit_explained printed [.discardCards p [card]]
      (Operation.Aside.singleton rfl).balanced
      (justifies_of_types (List.forall_mem_singleton.2 (by rintro ⟨⟩)))
    refine lays.bind ?_
    rintro shown ⟨laid, printed⟩
    refine Gives.imp ?_ fun _ => .before laid
    split
    · exact .error (explains_of_apt rfl)
    · refine .ite (Impact.resolve_explained printed (fun i hi j hj => ?_) cs) (.ok nofun)
      exact ((rooted i hi j hj).mono drew).mono laid

/-- What an action of a card in play causes is printed on the card. -/
theorem rooted_of_mem_actions {i : Impact} (hq : g.player? p = some q) (hd : q.played? s = some d)
    (ha : a ∈ d.card.actions) (hi : i ∈ a.impacts) : i.Throughout (·.Rooted g p (some s)) := by
  intro j hj type
  refine .inr fun s' here => ?_
  cases here
  exact ⟨q, d, hq, hd, d.card.mem_selfKinds_of_impact (Impact.walk_subset_of_mem_actions ha hi hj) type⟩

theorem useAction_explained (printed : started.game.Printed) (hq : started.game.player? p = some q)
    (hd : q.played? s = some d) (ha : a ∈ d.card.actions) (cs : List Choice) :
    Gives (useAction p d s a cs started) (·.Rooted p) started.game.Explains := by
  have rooted : ∀ i ∈ a.impacts, i.Throughout (·.Rooted started.game p (some s)) := fun i hi =>
    rooted_of_mem_actions hq hd ha hi
  unfold useAction
  refine (started.game.player_explained p).bind fun q' hq' => ?_
  obtain rfl : q = q' := Option.some.inj (hq.symm.trans hq')
  split
  · exact payAndResolve_explained printed .nil (justifies_of_types (List.forall_mem_nil _)) rooted cs
  · refine ((Impact.need_apt a.cost).explained _).bind fun cost _ => ?_
    refine ((q.paymentFor_apt cost).explained _).bind fun payment _ => ?_
    cases payment with
    | none => exact .ok nofun
    | some payment =>
      exact payAndResolve_explained printed (aside_paymentOps p payment)
        (justifies_of_types (types_paymentOps p payment)) rooted cs
  next type =>
    refine .ite (((Impact.need_apt _).explained _).bind fun kind _ => .ok nofun) ?_
    -- the price is one of the references of the card
    refine payAndResolve_explained printed (.singleton rfl) (justifies_of_refers ?_) rooted cs
    refine List.forall_mem_singleton.2 fun p' i' kind n read => ?_
    obtain ⟨rfl, rfl, hk⟩ := Operation.eq_of_changeCardResource read
    rw [(Player.mem_of_played? hd).2]
    exact ⟨q, d, hq, hd, hk ▸ d.card.mem_selfKinds_of_action ha type⟩
  · refine .ite (((Impact.need_apt _).explained _).bind fun r _ => .ok nofun) ?_
    refine payAndResolve_explained printed (.singleton rfl) (justifies_of_types ?_) rooted cs
    exact List.forall_mem_singleton.2 (by rintro ⟨⟩)
  · refine ((Impact.need_apt a.cost).explained _).bind fun cost _ => ?_
    refine ((q.paymentFor_apt cost).explained _).bind fun payment _ => ?_
    cases payment with
    | none => exact .ok nofun
    | some payment => exact revealCard_explained printed rooted cs

theorem performAction_explained (printed : g.Printed) (p : PlayerId) (instanceId : Option Int) (n : Int)
    (cs : List Choice) : Gives (g.performAction p instanceId n cs) (·.Rooted p) g.Explains := by
  unfold performAction
  refine (g.player_explained p).bind fun q hq => ?_
  split
  · exact .ok nofun
  next s d found =>
    obtain ⟨s', -, hd⟩ := Option.bind_eq_some_iff.1 found
    obtain ⟨d', hd, ⟨⟩⟩ := Option.map_eq_some_iff.1 hd
    refine .ite (.ok nofun) (.ite (.ok nofun) ?_)
    split
    · exact .ok nofun
    next a ha =>
      have marks := Progress.emit_explained (p := { game := g }) printed [.markCardActionUsed p s]
        (Operation.Aside.singleton rfl).balanced
        (justifies_of_types (List.forall_mem_singleton.2 (by rintro ⟨⟩)))
      refine marks.bind ?_
      rintro marked ⟨leads, printed⟩
      obtain ⟨q', hq', played⟩ := keeps_executeAll leads p q hq
      have used := useAction_explained printed hq' (Player.played?_of_prefix played hd)
        (mem_actions_of_actionAt? ha) cs
      exact used.imp fun _ => .before leads

/-! ### Any turn -/

theorem performProject_explained (printed : g.Printed) (p : PlayerId) (project : StandardProject)
    (cs : List Choice) : Gives (g.performProject p project cs) (·.Rooted p) g.Explains := by
  unfold performProject
  split
  · exact .ok nofun
  · refine (g.player_explained p).bind fun q hq => ?_
    refine ((q.paymentFor_apt project.cost).explained g).bind fun payment _ => ?_
    cases payment with
    | none => exact .ok nofun
    | some payment =>
      have pays := Progress.emit_explained (p := { game := g }) printed (paymentOps p payment)
        (aside_paymentOps p payment).balanced (justifies_of_types (types_paymentOps p payment))
      refine pays.bind ?_
      rintro paid ⟨leads, printed⟩
      -- a project comes from no card
      have rooted : ∀ i ∈ project.impacts, i.Throughout (·.Rooted paid.game p none) :=
        fun i _ j _ _ => .inr nofun
      exact (Impact.resolve_explained printed rooted cs).imp fun _ => .before leads

theorem completeWith_explained (printed : g.Printed) (aside : Aside ops)
    (types : ∀ o ∈ ops, o.type ≠ .changeCardResource) :
    Gives (g.completeWith ops) (·.Rooted p) g.Explains := by
  have emits := Progress.emit_explained (p := { game := g }) printed ops aside.balanced
    (justifies_of_types types)
  exact emits.bind fun done _ => .ok fun _ _ => List.forall_mem_nil _

/-- **A turn** fails in a way that is explained, and what it leaves open has reasons. -/
theorem takeTurn_explained (printed : g.Printed) (p : PlayerId) (action : TurnAction) (cs : List Choice) :
    Gives (g.takeTurn p action cs) (·.Rooted p) g.Explains := by
  unfold takeTurn
  split
  · split
    · exact playCard_explained printed p _ cs
    · exact (g.player_explained p).bind fun q _ => .error (explains_of_apt rfl)
  · exact performAction_explained printed p _ _ cs
  · split
    · exact performProject_explained printed p _ cs
    · exact .error (explains_of_apt rfl)
  · refine (g.player_explained p).bind fun q _ => ?_
    split
    · exact .ok nofun
    · refine completeWith_explained printed (.cons rfl (.singleton rfl)) ?_
      exact List.forall_mem_cons.2 ⟨by rintro ⟨⟩, List.forall_mem_singleton.2 (by rintro ⟨⟩)⟩
  · refine (g.player_explained p).bind fun q _ => ?_
    split
    · exact .ok nofun
    · refine completeWith_explained printed (.cons rfl (.singleton rfl)) ?_
      exact List.forall_mem_cons.2 ⟨by rintro ⟨⟩, List.forall_mem_singleton.2 (by rintro ⟨⟩)⟩
  · exact .ok nofun

/-! ## Play -/

variable {g₀ : Game} {left : List OpenAttempt}

/-- **Whatever play leaves open** has reasons for being there. -/
theorem Playthrough.rooted (start : g₀.Printed) (play : Playthrough g₀ g left) :
    ∀ o ∈ left, o.Rooted g := by
  induction play with
  | start => exact List.forall_mem_nil _
  | @turn g g' left p action cs a play taken hg ih =>
    have leads := (Attempts.takeTurn taken).replays _ hg
    refine List.forall_mem_append.2 ⟨fun o ho => (ih o ho).mono leads, ?_⟩
    exact (takeTurn_explained (play.printed start) p action cs).holds taken g' hg
  | @resumption g g' left o cs a play mem resumed hg ih =>
    have leads := (Attempts.resolve resumed).replays _ hg
    refine List.forall_mem_append.2 ⟨fun o ho => (ih o ho).mono leads, ?_⟩
    exact ((ih o mem).resume_explained (play.printed start) cs).holds resumed g' hg
  | purchase play bought ih =>
    exact fun o ho => (ih o ho).mono (executeAll_singleton (purchase_eq_some bought))
  | @generationEnd g left play ih =>
    obtain ⟨os, -, leads⟩ := g.exists_advance
    exact fun o ho => (ih o ho).mono leads

/-- **Every failure** of play is explained: of a turn that is taken, and of an attempt that is taken up
again. -/
theorem Playthrough.explained (start : g₀.Printed) (play : Playthrough g₀ g left) :
    (∀ p action cs, Gives (g.takeTurn p action cs) (fun _ => True) g.Explains) ∧
      ∀ o ∈ left, ∀ cs, Gives (o.resume g cs) (fun _ => True) g.Explains := by
  have printed : g.Printed := play.printed start
  constructor
  · intro p action cs
    exact (takeTurn_explained printed p action cs).mono fun _ _ => trivial
  · intro o ho cs
    exact ((play.rooted start o ho).resume_explained printed cs).mono fun _ _ => trivial

/-- **A card holds one kind of resources.**  On a card without defects, impacts and actions refer to the
kind that the card holds, and so do effects and points if and only if the effects agree with each other and
with the rest.  And whenever a turn or an attempt that is taken up again fails because a card cannot hold
a kind, wherever play from players who were set up has led to, this goes back to a card in play which does
not hold it: one that refers to the kind, and that has defects or effects that do not agree; one from which
resources are taken that had been put there all the same; or one on which the board puts them. -/
theorem one_kind_of_resources (setUp : ∀ r q, g₀.player? r = some q → ∃ s : PlayerSetup, s.player = .ok q)
    (play : Playthrough g₀ g left) :
    (∀ c : Card, c.defects = .ok [] →
      (∀ k ∈ c.impactKinds ++ c.actionKinds, k = c.supportedResource?) ∧
        ((∀ k ∈ c.selfKinds, k = c.supportedResource?) ↔ c.EffectsAgree)) ∧
    ∀ (name : String) (kind : CardResource),
      ((∃ p action cs, g.takeTurn p action cs = .error (.violation (.cannotHold name kind))) ∨
        ∃ o ∈ left, ∃ cs, o.resume g cs = .error (.violation (.cannotHold name kind))) →
      ∃ os h p q d, g.executeAll os = .accepted h ∧ h.player? p = some q ∧
        q.played? d.instanceId = some d ∧ d.card.name = name ∧
        d.card.supportedResource? ≠ some kind ∧
        (some kind ∈ d.card.selfKinds ∧ (d.card.defects = .ok [] → ¬d.card.EffectsAgree) ∨
          0 < q.held d.instanceId (some kind) ∨ g.board.Lays kind) := by
  refine ⟨fun c flawless => ⟨fun k hk => CardText.holds_of_flawless flawless hk,
    CardText.holds_iff_effectsAgree flawless⟩, ?_⟩
  intro name kind failed
  have start : g₀.Printed := fun r q hq => by
    obtain ⟨s, hs⟩ := setUp r q hq
    exact PlayerSetup.printed hs
  have explains : g.Explains (.violation (.cannotHold name kind)) := by
    obtain ⟨turns, resumes⟩ := play.explained start
    rcases failed with ⟨p, action, cs, failed⟩ | ⟨o, ho, cs, failed⟩
    · exact (turns p action cs).fails failed
    · exact (resumes o ho cs).fails failed
  obtain ⟨os, h, p, q, d, leads, hq, hd, named, unsupported, warrants⟩ := explains name kind rfl
  refine ⟨os, h, p, q, d, leads, hq, hd, named, unsupported, ?_⟩
  cases warrants with
  | own refers =>
    exact .inl ⟨refers, fun flawless agree =>
      unsupported ((CardText.holds_iff_effectsAgree flawless).2 agree _ refers).symm⟩
  | holder holds => exact absurd holds unsupported
  | held there => exact .inr (.inl there)
  | bonus lays => exact .inr (.inr lays)

/-- A card that puts microbes on itself once, and an animal whenever its owner raises the temperature. -/
def hatchery : Card :=
  Design.card .automatic "Hatchery" [] 0 {
    impacts := [.addResourceToSameCard .microbe]
    effects := [.onImpact .gainCardResourceForOwnImpact 1 [.raiseTemperature] none (some .animal)] }

/-- The owner of a hatchery, with enough for an asteroid. -/
def hatcher : PlayerSetup where
  id := 1
  megacredits := some 14
  played := [hatchery]

/-- A game of one hatcher. -/
def broodery : Game where
  board := .standard
  players := Table.ofList [(1, hatcher.player.toOption.getD { id := 1 })]

theorem broodery_setUp : ∀ r q, broodery.player? r = some q → ∃ s : PlayerSetup, s.player = .ok q := by
  intro r q hq
  have set : hatcher.player.toOption.isSome = true := by decide +kernel
  obtain ⟨q₁, hq₁⟩ := Option.isSome_iff_exists.1 set
  rw [player?, broodery, hq₁] at hq
  obtain ⟨-, rfl⟩ := Table.get?_ofList_singleton.1 hq
  exact ⟨hatcher, toOption_eq_some.1 hq₁⟩

/-- The gain of the effect is refused. -/
theorem broodery_fails :
    broodery.takeTurn 1 (.standardProject .asteroid) =
      .error (.violation (.cannotHold "Hatchery" .animal)) := by
  have fails : (broodery.takeTurn 1 (.standardProject .asteroid)).map (fun _ => ()) =
      .error (.violation (.cannotHold "Hatchery" .animal)) := by
    decide +kernel
  exact map_eq_error.1 fails

/-- An ecological zone refers to animals twice, and holds them; and an asteroid of the owner of a hatchery
is refused, which goes back to a card of that name. -/
theorem one_kind_of_resources_broodery :
    (∃ c ∈ builtInCards ["Ecological Zone"], c.defects = .ok [] ∧ c.EffectsAgree ∧
      1 < c.selfKinds.length ∧ ∀ k ∈ c.selfKinds, k = c.supportedResource?) ∧
    (∀ r q, broodery.player? r = some q → ∃ s : PlayerSetup, s.player = .ok q) ∧
    Playthrough broodery broodery [] ∧
    broodery.takeTurn 1 (.standardProject .asteroid) [] =
      .error (.violation (.cannotHold "Hatchery" .animal)) ∧
    ∃ os h p q d, broodery.executeAll os = .accepted h ∧ h.player? p = some q ∧
      q.played? d.instanceId = some d ∧ d.card.name = "Hatchery" ∧
      d.card.supportedResource? ≠ some .animal ∧
      (some .animal ∈ d.card.selfKinds ∧ (d.card.defects = .ok [] → ¬d.card.EffectsAgree) ∨
        0 < q.held d.instanceId (some .animal) ∨ broodery.board.Lays .animal) := by
  have zone : ((builtInCards ["Ecological Zone"]).head?.bind fun c =>
      if c.defects.toOption = some [] ∧ c.EffectsAgree ∧ 1 < c.selfKinds.length then
        some c else none).isSome = true := by
    decide +kernel
  obtain ⟨_, h⟩ := Option.isSome_iff_exists.1 zone
  obtain ⟨c, hc, h⟩ := Option.bind_eq_some_iff.1 h
  obtain ⟨⟨flawless, agree, twice⟩, -⟩ := Option.ite_none_right_eq_some.1 h
  have flawless := toOption_eq_some.1 flawless
  refine ⟨⟨c, List.mem_of_mem_head? hc, flawless, agree, twice, ?_⟩, broodery_setUp, .start,
    broodery_fails, ?_⟩
  · exact ((one_kind_of_resources broodery_setUp .start).1 c flawless).2.2 agree
  · exact (one_kind_of_resources broodery_setUp .start).2 _ _ (.inl ⟨1, _, [], broodery_fails⟩)

/-- **Effects are not looked at** when a card is checked: nothing is wrong with a hatchery, and it refers
to two kinds, of which it can only hold one. -/
theorem broodery_misfits :
    hatchery.defects = .ok [] ∧ some .microbe ∈ hatchery.selfKinds ∧
      some .animal ∈ hatchery.selfKinds ∧ hatchery.supportedResource? = some .microbe ∧
      (∃ q, broodery.player? 1 = some q ∧ q.played = [⟨0, hatchery⟩]) ∧
      broodery.takeTurn 1 (.standardProject .asteroid) =
        .error (.violation (.cannotHold "Hatchery" .animal)) := by
  have inPlay : (broodery.player? 1).map (·.played) = some [⟨0, hatchery⟩] := by decide +kernel
  exact ⟨rfl, by decide, by decide, rfl, Option.map_eq_some_iff.1 inPlay, broodery_fails⟩

end Game

end Terraforming
