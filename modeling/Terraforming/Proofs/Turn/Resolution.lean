import Terraforming.Proofs.Turn.Demands
import Terraforming.Proofs.Turn.Meeting
import Terraforming.Proofs.Turn.Progress

/-!
# Resolutions that come to an end

Resolving impacts that are ready, in a regular game, always answers with an attempt: no operation
that is emitted on the way is refused, and no bonus waits for a decision.  What the attempt leaves
behind is regular again, and the impacts that are left are still ready.

* `Progress.Follows` — the invariant of a resolution: the game on its way is regular and keeps what
  the first one had.
* `Impact.settleBonuses_follows`, `Impact.resolve_answers` — it is carried through bonuses and
  through a whole queue.
-/

namespace Terraforming

variable {g : Game} {actor : PlayerId} {q : Player} {source : Option Int}

/-! ## The invariant -/

/-- The game on its way is regular, and keeps what `g` had. -/
structure Progress.Follows (p : Progress) (g : Game) : Prop where
  regular : p.game.Regular
  kept : g.Keeps p.game

namespace Progress

variable {p p' : Progress} {ops : List Operation}

theorem follows_start (regular : g.Regular) : Follows { game := g } g := ⟨regular, .refl g⟩

theorem Follows.trans (h : p'.Follows p.game) (hp : p.Follows g) : p'.Follows g :=
  ⟨h.regular, hp.kept.trans h.kept⟩

theorem Follows.player (h : p.Follows g) (hq : g.player? actor = some q) :
    ∃ q', p.game.player? actor = some q' := by
  obtain ⟨q', hq', -⟩ := h.kept actor q hq
  exact ⟨q', hq'⟩

theorem emit_of_reaches {g' : Game} {before : List Operation} (h : g.Reaches ops g') :
    Progress.emit ⟨g, before⟩ ops = .ok ⟨g', before ++ ops⟩ :=
  emit_eq_ok.2 ⟨h.accepted, rfl⟩

theorem emit_of_admits (h : p.game.Admits ops) :
    ∃ p', p.emit ops = .ok p' ∧ p'.Follows p.game := by
  obtain ⟨g', h⟩ := h
  exact ⟨_, emit_of_reaches h, h.regular, h.keeps⟩

end Progress

/-- What is left of an attempt that waits for a decision: enough to take it up again. -/
structure OpenAttempt where
  player : PlayerId
  remaining : List Impact
  source : Option Int

/-- The attempt can be taken up in `g`: its player is there, and what is left is ready. -/
structure OpenAttempt.Live (o : OpenAttempt) (g : Game) : Prop where
  present : ∃ q, g.player? o.player = some q
  ready : ∀ i ∈ o.remaining, i.Ready g o.player o.source

theorem OpenAttempt.Live.mono {o : OpenAttempt} {g' : Game} (live : o.Live g)
    (kept : g.Keeps g') : o.Live g' := by
  obtain ⟨q, hq⟩ := live.present
  obtain ⟨q', hq', -⟩ := kept o.player q hq
  exact ⟨⟨q', hq'⟩, fun i hi => (live.ready i hi).mono kept⟩

/-- What can be said of an attempt made in `g`: the game that it leads to is regular and keeps what
`g` had, and what is left of it can be taken up there. -/
def Attempt.Orderly (g : Game) (actor : PlayerId) : Attempt → Prop
  | unplayable _ => True
  | waiting _ remaining _ source g' =>
    g'.Regular ∧ g.Keeps g' ∧ OpenAttempt.Live ⟨actor, remaining, source⟩ g'
  | complete _ g' => g'.Regular ∧ g.Keeps g'

/-- The move answers with an attempt, and not with a fault. -/
def Game.Answers (g : Game) (actor : PlayerId) (move : Except Fault Attempt) : Prop :=
  ∃ a, move = .ok a ∧ a.Orderly g actor

theorem Game.answers_unplayable (r : Refusal) : g.Answers actor (.ok (.unplayable r)) :=
  ⟨_, rfl, trivial⟩

theorem Progress.Follows.answers {p : Progress} (h : p.Follows g) :
    g.Answers actor (.ok (.complete p.operations p.game)) :=
  ⟨_, rfl, h.regular, h.kept⟩

/-! ## Meeting demands -/

/-- What comes of meeting a demand can be had, and what it brings is a plain gain. -/
def Met.Feasible {i : Impact} {cs : List Choice} (g : Game) : Met i cs → Prop
  | performed ops => g.Admits ops
  | answered ops bonuses _ _ => g.Admits ops ∧ ∀ i ∈ bonuses, i.isPlainGain = true
  | _ => True

/-- What a demand that can be had yields can be had, and the bonuses that come with it are plain. -/
theorem Demand.Feasible.yields {i : Impact} {d : Demand i} {answer : List Choice}
    {ops : List Operation} {more : List Impact} (h : d.Feasible g) (regular : g.Regular)
    (yields : d.Yields g.board answer ops more) :
    g.Admits ops ∧ ∀ i ∈ more, i.isPlainGain = true := by
  cases yields with
  | perform => exact ⟨h, List.forall_mem_nil _⟩
  | @place _ _ _ l _ legal =>
    exact ⟨h l legal, fun i hi => Board.plain_of_mem_placementBonuses regular.stocked.spaces hi⟩
  | @aim _ _ _ p _ legal => exact ⟨h p legal, List.forall_mem_nil _⟩
  | @pick _ _ _ t _ _ legal ok => exact ⟨h t legal _ ok, List.forall_mem_nil _⟩

/-- A demand that can be had is met so, whatever is chosen. -/
theorem Demand.Feasible.meet {i : Impact} {d : Demand i} (h : d.Feasible g)
    (regular : g.Regular) (cs : List Choice) : (d.meet g.board cs).Feasible g := by
  cases hm : d.meet g.board cs with
  | performed ops => exact (h.yields regular (yields_of_performed hm)).1
  | answered ops bonuses rest used =>
    obtain ⟨c, -, yields⟩ := yields_of_answered hm
    exact h.yields regular yields
  | waiting | skipped | refused | replaced => trivial

/-! ## Bonuses -/

namespace Impact

variable {i : Impact} {cs : List Choice} {p : Progress}

theorem ready_of_plain (plain : i.isPlainGain = true) (kind : Option CardResource) :
    i.ready kind = true := by
  rw [isPlainGain, Bool.and_eq_true, Bool.or_eq_true, Bool.and_eq_true, decide_eq_true_eq,
    decide_eq_true_eq, decide_eq_true_eq] at plain
  obtain ⟨⟨type, resource⟩ | type, count⟩ := plain
  · simp only [ready, type, resource]
  · simp only [ready, type, count, decide_true]

/-- A plain gain waits for nothing and is not refused. -/
theorem demand_of_plain (plain : i.isPlainGain = true) (regular : g.Regular)
    (hq : g.player? actor = some q) (source : Option Int) :
    i.demand g actor source = .ok .skip ∨
      ∃ ops, i.demand g actor source = .ok (.perform ops) ∧ g.Admits ops := by
  have attainable : i.Attainable g (i.demand g actor source) :=
    demand_attainable regular hq (ready_of_plain plain _)
  obtain ⟨d, hd, feasible⟩ := attainable
  rw [isPlainGain, Bool.and_eq_true, Bool.or_eq_true, Bool.and_eq_true, decide_eq_true_eq,
    decide_eq_true_eq, decide_eq_true_eq] at plain
  obtain ⟨⟨type, resource⟩ | type, count⟩ := plain
  · have held := (regular.sound.players actor q hq).balances
    obtain ⟨r, hr⟩ := Option.isSome_iff_exists.1 resource
    have enough : ¬q.balance i.resource + i.count < 0 := by
      rw [hr]
      exact Int.not_lt.2 (Int.add_nonneg (held r) count)
    simp only [demand, type, demandGain, Game.player_eq_ok.2 hq, ok_bind, if_neg enough] at hd ⊢
    split
    · exact .inl rfl
    next some =>
      rw [if_neg some] at hd
      cases hd
      exact .inr ⟨_, rfl, feasible⟩
  · simp only [demand, type, demandCards] at hd ⊢
    split
    · exact .inl rfl
    next some =>
      rw [if_neg some] at hd
      cases hd
      exact .inr ⟨_, rfl, feasible⟩

/-- Bonuses that are plain gains are settled, and use no choice. -/
theorem settleBonuses_follows {bonuses : List Impact} (regular : p.game.Regular)
    (hq : p.game.player? actor = some q) (plain : ∀ i ∈ bonuses, i.isPlainGain = true)
    (source : Option Int) (cs : List Choice) :
    ∃ p', settleBonuses actor source cs bonuses p = .ok (cs, p') ∧ p'.Follows p.game := by
  induction bonuses generalizing p q with
  | nil => exact ⟨p, by rw [settleBonuses], regular, .refl _⟩
  | cons i is ih =>
    have rest : ∀ j ∈ is, j.isPlainGain = true := fun j hj => plain j (List.mem_cons_of_mem i hj)
    obtain hd | ⟨ops, hd, admits⟩ :=
      demand_of_plain (plain i List.mem_cons_self) regular hq source
    · obtain ⟨p', hp', follows⟩ := ih regular hq rest
      refine ⟨p', ?_, follows⟩
      rw [settleBonuses, hd]
      exact hp'
    · obtain ⟨p₁, hp₁, follows₁⟩ := Progress.emit_of_admits admits
      obtain ⟨q₁, hq₁⟩ := follows₁.player hq
      obtain ⟨p', hp', follows⟩ := ih follows₁.regular hq₁ rest
      refine ⟨p', ?_, follows.trans follows₁⟩
      rw [settleBonuses, hd]
      simp only [Demand.meet, hp₁]
      exact hp'

/-! ## A queue of impacts -/

/-- Effects can always react. -/
theorem conclude_follows (regular : p.game.Regular) (actor : PlayerId) (i : Impact) :
    ∃ p', i.conclude actor p = .ok p' ∧ p'.Follows p.game :=
  Progress.emit_of_admits
    (Game.reaches_gains regular (Game.gains_reactionsToImpact regular actor i))

theorem performed_follows {ops : List Operation} (admits : p.game.Admits ops)
    (actor : PlayerId) (i : Impact) :
    ∃ p', (p.emit ops >>= i.conclude actor) = .ok p' ∧ p'.Follows p.game := by
  obtain ⟨p₁, hp₁, follows₁⟩ := Progress.emit_of_admits admits
  obtain ⟨p₂, hp₂, follows₂⟩ := conclude_follows follows₁.regular actor i
  exact ⟨p₂, bind_eq_ok.2 ⟨p₁, hp₁, hp₂⟩, follows₂.trans follows₁⟩

/-- After an answer the bonuses are settled without a choice, and then the effects react. -/
theorem answered_follows {ops : List Operation} {bonuses : List Impact}
    (hq : p.game.player? actor = some q) (admits : p.game.Admits ops)
    (plain : ∀ i ∈ bonuses, i.isPlainGain = true) (source : Option Int) (cs : List Choice)
    (i : Impact) :
    ∃ p₁ p₂, (p.emit ops >>= settleBonuses actor source cs bonuses) = .ok (cs, p₁) ∧
      i.conclude actor p₁ = .ok p₂ ∧ p₂.Follows p.game := by
  obtain ⟨p₀, hp₀, follows₀⟩ := Progress.emit_of_admits admits
  obtain ⟨q₀, hq₀⟩ := follows₀.player hq
  obtain ⟨p₁, hp₁, follows₁⟩ := settleBonuses_follows follows₀.regular hq₀ plain source cs
  obtain ⟨p₂, hp₂, follows₂⟩ := conclude_follows follows₁.regular actor i
  exact ⟨p₁, p₂, bind_eq_ok.2 ⟨p₀, hp₀, hp₁⟩, hp₂, follows₂.trans (follows₁.trans follows₀)⟩

/-- However the demand of an impact that is ready is met, what comes of it can be had. -/
theorem Ready.met {d : Demand i} {m : Met i cs} (ready : i.Ready g actor source)
    (regular : g.Regular) (hq : g.player? actor = some q) (hd : i.demand g actor source = .ok d)
    (hm : d.meet g.board cs = m) : m.Feasible g := by
  obtain ⟨d', hd', feasible⟩ := demand_attainable regular hq ready.self
  obtain rfl : d = d' := Except.ok.inj (hd.symm.trans hd')
  exact hm ▸ feasible.meet regular cs

/-- Impacts that are ready are resolved, or one of them is refused or waits. -/
theorem resolve_answers {queue : List Impact} (follows : p.Follows g)
    (hq : g.player? actor = some q) (ready : ∀ i ∈ queue, i.Ready p.game actor source) :
    g.Answers actor (resolve actor source cs queue p) := by
  obtain ⟨q', hq'⟩ := follows.player hq
  -- The faults of the algorithm are the cases that contradict the lemmas above.
  fun_induction resolve actor source cs queue p generalizing q' with
  | case1 cs p => exact follows.answers
  | case2 cs p i is f hd =>
    obtain ⟨d, hd', -⟩ := demand_attainable follows.regular hq' (ready i List.mem_cons_self).self
    rw [hd] at hd'
    cases hd'
  | case3 cs p i is d hd options hm =>
    exact ⟨_, rfl, follows.regular, follows.kept, ⟨q', hq'⟩, ready⟩
  | case4 cs p i is d hd r hm => exact Game.answers_unplayable r
  | case5 cs p i is d hd hm ih =>
    exact ih follows (fun j hj => ready j (List.mem_cons_of_mem i hj)) q' hq'
  | case6 cs p i is d hd ops hm f he =>
    have admits := (ready i List.mem_cons_self).met follows.regular hq' hd hm
    obtain ⟨p', hp', -⟩ := performed_follows admits actor i
    rw [he] at hp'
    cases hp'
  | case7 cs p i is d hd ops hm p₁ he ih =>
    have admits := (ready i List.mem_cons_self).met follows.regular hq' hd hm
    obtain ⟨p', hp', onward⟩ := performed_follows admits actor i
    obtain rfl : p₁ = p' := Except.ok.inj (he.symm.trans hp')
    obtain ⟨q₁, hq₁⟩ := onward.player hq'
    exact ih (onward.trans follows)
      (fun j hj => (ready j (List.mem_cons_of_mem i hj)).mono onward.kept) q₁ hq₁
  | case8 cs p i is d hd ops bonuses rest used hm f he =>
    obtain ⟨admits, plain⟩ := (ready i List.mem_cons_self).met follows.regular hq' hd hm
    obtain ⟨p₁, p₂, hp₁, -⟩ := answered_follows hq' admits plain source rest i
    rw [he] at hp₁
    cases hp₁
  | case9 cs p i is d hd ops bonuses rest used hm rest' p' he f hc =>
    obtain ⟨admits, plain⟩ := (ready i List.mem_cons_self).met follows.regular hq' hd hm
    obtain ⟨p₁, p₂, hp₁, hp₂, -⟩ := answered_follows hq' admits plain source rest i
    cases he.symm.trans hp₁
    rw [hc] at hp₂
    cases hp₂
  | case10 cs p i is d hd ops bonuses rest used hm rest' p' he p'' hc ih =>
    obtain ⟨admits, plain⟩ := (ready i List.mem_cons_self).met follows.regular hq' hd hm
    obtain ⟨p₁, p₂, hp₁, hp₂, onward⟩ := answered_follows hq' admits plain source rest i
    cases he.symm.trans hp₁
    obtain rfl : p'' = p₂ := Except.ok.inj (hc.symm.trans hp₂)
    obtain ⟨q₁, hq₁⟩ := onward.player hq'
    exact ih (onward.trans follows)
      (fun j hj => (ready j (List.mem_cons_of_mem i hj)).mono onward.kept) q₁ hq₁
  | case11 cs p i is d hd j mem rest hm ih =>
    refine ih follows (fun k hk => ?_) q' hq'
    rcases List.mem_cons.1 hk with rfl | hk
    · exact (ready i List.mem_cons_self).option mem
    · exact ready k (List.mem_cons_of_mem i hk)

end Impact

end Terraforming
