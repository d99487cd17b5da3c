import Terraforming.Catalog.Design
import Terraforming.Turn.Legal
import Terraforming.Proofs.Turn.Answers
import Terraforming.Proofs.Turn.Sameness

/-!
# The list of legal turns

The list of what a player could do and the checks at the start of a turn are written apart from each
other.  Here both are read off one account of what can be started (`Game.Startable`):

* `mem_legalActions` — an action is listed exactly when it can be started;
* `startable_of_accepted` — an action that the resolver does not call unplayable can be started;
* `nodup_legalActions` — nothing is listed twice;
* `legalActions_complete` — so the list leaves nothing out, and where an action asks for nothing more,
  it is listed exactly when it comes to its end.
-/

namespace Terraforming

/-! ## One card of each name -/

/-- Cards of one name are the same. -/
def NamesTell (cards : List Card) : Prop :=
  ∀ c ∈ cards, ∀ d ∈ cards, c.name = d.name → (c == d) = true

instance (cards : List Card) : Decidable (NamesTell cards) :=
  inferInstanceAs (Decidable (∀ c ∈ cards, ∀ d ∈ cards, c.name = d.name → (c == d) = true))

theorem mem_of_mem_distinctByName {c : Card} {cards : List Card} (hc : c ∈ distinctByName cards) :
    c ∈ cards := by
  induction cards with
  | nil => exact hc
  | cons d cards ih =>
    rcases List.mem_cons.1 hc with rfl | hc
    · exact List.mem_cons_self
    · exact List.mem_cons_of_mem d (ih (List.mem_of_mem_filter hc))

theorem exists_mem_distinctByName {c : Card} {cards : List Card} (hc : c ∈ cards) :
    ∃ d ∈ distinctByName cards, d.name = c.name := by
  induction cards with
  | nil => cases hc
  | cons d cards ih =>
    by_cases same : c.name = d.name
    · exact ⟨d, List.mem_cons_self, same.symm⟩
    · rcases List.mem_cons.1 hc with rfl | hc
      · exact absurd rfl same
      · obtain ⟨e, he, name⟩ := ih hc
        refine ⟨e, List.mem_cons_of_mem d (List.mem_filter.2 ⟨he, ?_⟩), name⟩
        exact decide_eq_true (name ▸ same)

theorem nodup_names_distinctByName (cards : List Card) :
    ((distinctByName cards).map (·.name)).Nodup := by
  induction cards with
  | nil => exact .nil
  | cons c cards ih =>
    refine List.nodup_cons.2 ⟨fun again => ?_, ?_⟩
    · obtain ⟨d, hd, name⟩ := List.mem_map.1 again
      exact of_decide_eq_true (List.mem_filter.1 hd).2 name
    · exact ih.sublist (List.filter_sublist.map _)

/-! ## Turn actions -/

namespace TurnAction

variable {a b : TurnAction} {as : List TurnAction}

/-- The action with its card in normal form: two actions are the same when these are. -/
def normal (a : TurnAction) : TurnAction := { a with card := a.card.map Card.normal }

/-- An action as it is built for its type: it has what the type needs, and nothing else. -/
inductive Canonical : TurnAction → Prop
  | playCard (c : Card) : Canonical (.playCard c)
  | performAction (instanceId index : Int) : Canonical (.performAction instanceId index)
  | standardProject (s : StandardProject) : Canonical (.standardProject s)
  | claimMilestone (name : String) : Canonical (.claimMilestone name)
  | fundAward (name : String) : Canonical (.fundAward name)
  | pass : Canonical .pass

theorem normal_of_card_eq_none (h : a.card = none) : a.normal = a := by
  rw [normal, h, Option.map_none, ← h]

theorem map_normal_of_bare (bare : ∀ a ∈ as, a.card = none) : as.map normal = as :=
  (List.map_congr_left fun a ha => normal_of_card_eq_none (bare a ha)).trans (List.map_id as)

end TurnAction

/-! ## What is asked of a card -/

/-- A card has actions exactly when it is active. -/
theorem Card.kind_eq_active_iff (c : Card) : c.kind = .active ↔ c.actions ≠ [] := by
  have sound := c.sound
  unfold CardText.flaw? at sound
  split at sound
  · cases sound
  next agrees => by_cases active : c.kind = .active <;> simpa [active] using agrees

namespace Player

variable {q : Player} {b : Board} {c : Card} {cost : Cost}

theorem fulfilsAll_eq_true {rs : List Requirement} :
    q.fulfilsAll b rs = .ok true ↔ ∀ r ∈ rs, q.fulfils b r = .ok true := by
  induction rs with
  | nil => simp [fulfilsAll]
  | cons r rs ih =>
    rw [fulfilsAll, List.forall_mem_cons, ← ih]
    cases q.fulfils b r with
    | error f => simp
    | ok fulfilled => cases fulfilled <;> simp

theorem unfulfilled_eq_nil :
    q.unfulfilled b c = .ok [] ↔ ∀ r ∈ c.requirements, q.fulfils b r = .ok true := by
  rw [unfulfilled, filterM_eq_ok, List.filter_eq_nil_iff, ← forall₂_and]
  refine forall₂_congr fun r _ => ?_
  cases q.fulfils b r with
  | error f => simp
  | ok fulfilled => cases fulfilled <;> simp [Except.toOption]

theorem canPlay_eq_some :
    q.canPlay b c = .ok (some cost) ↔ (∀ r ∈ c.requirements, q.fulfils b r = .ok true) ∧
      q.canAfford (q.effectiveCost c) = .ok true ∧ q.effectiveCost c = cost := by
  rw [canPlay, meetsRequirements, ← fulfilsAll_eq_true]
  cases q.fulfilsAll b c.requirements with
  | error f => simp
  | ok met =>
    cases met with
    | false => simp
    | true =>
      cases q.canAfford (q.effectiveCost c) with
      | error f => simp
      | ok affordable => cases affordable <;> simp

/-- No reason is given against a card exactly when there is a cost to pay for it. -/
theorem unmetRequirements_eq_nil :
    q.unmetRequirements b c = .ok [] ↔ ∃ cost, q.canPlay b c = .ok (some cost) := by
  simp only [canPlay_eq_some, ← unfulfilled_eq_nil, unmetRequirements]
  cases q.unfulfilled b c with
  | error f => simp
  | ok rs =>
    cases q.canAfford (q.effectiveCost c) with
    | error f => simp
    | ok affordable => cases affordable <;> simp

/-- The same is asked of the same card. -/
theorem unmetRequirements_alike {d : Card} (same : (c == d) = true) :
    q.unmetRequirements b c = q.unmetRequirements b d := by
  rw [← unmetRequirements_normal, Card.beq_iff.1 same, unmetRequirements_normal]

end Player

namespace Game

variable {g : Game} {p : PlayerId} {q : Player} {a : TurnAction} {as : List TurnAction}
  {cs : List Choice} {x : Attempt}

/-! ## What can be started -/

/-- What a player could start: what an action asks for at its beginning is there. -/
inductive Startable (g : Game) (q : Player) : TurnAction → Prop
  | playCard {c : Card} {cost : Cost} (first : c ∈ distinctByName q.hand)
      (playable : q.canPlay g.board c = .ok (some cost)) : Startable g q (.playCard c)
  | performAction {d : PlayedCard} {n : Nat} (inPlay : d ∈ q.played)
      (unused : q.tapped.contains d.instanceId = false) (printed : n < d.card.actions.length) :
      Startable g q (.performAction d.instanceId n)
  | standardProject {s : StandardProject} (sensible : g.projectRefusal? s = none)
      (affordable : q.canAfford s.cost = .ok true) : Startable g q (.standardProject s)
  | claimMilestone {n : String} (free : g.milestoneRefusal? q (some n) = none) :
      Startable g q (.claimMilestone n)
  | fundAward {n : String} (free : g.awardRefusal? q (some n) = none) : Startable g q (.fundAward n)
  | pass : Startable g q .pass

/-! ## The list -/

theorem mem_legalPlays (h : g.legalPlays q = .ok as) :
    a ∈ as ↔ ∃ c ∈ distinctByName q.hand, (∃ cost, q.canPlay g.board c = .ok (some cost)) ∧
      .playCard c = a := by
  obtain ⟨playable, hp, ⟨⟩⟩ := bind_eq_ok.1 h
  obtain ⟨-, rfl⟩ := filterM_eq_ok.1 hp
  simp only [List.mem_map, List.mem_filter, decide_eq_true_eq, and_assoc]
  refine exists_congr fun c => and_congr_right fun _ => and_congr_left fun _ => ?_
  cases q.canPlay g.board c with
  | error f => simp [Except.toOption]
  | ok cost => simp [Except.toOption, Option.isSome_iff_exists]

/-- Whether a card could be played is asked once for each name, and has to be known. -/
theorem legalPlays_answers_iff :
    (∃ as, g.legalPlays q = .ok as) ↔
      ∀ c ∈ distinctByName q.hand, ∃ answer, q.canPlay g.board c = .ok answer := by
  constructor
  · rintro ⟨as, h⟩ c hc
    obtain ⟨playable, hp, -⟩ := bind_eq_ok.1 h
    obtain ⟨b, hb⟩ := (filterM_eq_ok.1 hp).1 c hc
    obtain ⟨answer, ha, -⟩ := bind_eq_ok.1 hb
    exact ⟨answer, ha⟩
  · intro known
    obtain ⟨playable, hp⟩ := filterM_total (f := fun c => do
        return (← q.canPlay g.board c).isSome) fun c hc => by
      obtain ⟨answer, ha⟩ := known c hc
      exact ⟨answer.isSome, bind_eq_ok.2 ⟨answer, ha, rfl⟩⟩
    exact ⟨_, bind_eq_ok.2 ⟨playable, hp, rfl⟩⟩

theorem mem_legalCardActions :
    a ∈ legalCardActions q ↔ ∃ d ∈ q.played, q.tapped.contains d.instanceId = false ∧
      ∃ n : Nat, n < d.card.actions.length ∧ .performAction d.instanceId n = a := by
  simp only [legalCardActions, Player.activeCards, List.mem_flatMap, List.mem_filter,
    decide_eq_true_eq, Bool.not_eq_true', List.mem_map, List.mem_range, and_assoc]
  refine exists_congr fun d => and_congr_right fun _ => ?_
  refine ⟨And.right, fun ⟨unused, n, printed, same⟩ => ⟨?_, unused, n, printed, same⟩⟩
  exact (Card.kind_eq_active_iff d.card).2 (List.ne_nil_of_length_pos (by omega))

/-- No project costs metal, so whether it can be paid for is always known. -/
theorem canAfford_project_answers (q : Player) (s : StandardProject) :
    ∃ affordable, q.canAfford s.cost = .ok affordable := by
  unfold Player.canAfford Player.paymentFor
  cases s <;> exact ⟨_, rfl⟩

theorem mem_legalProjects (h : g.legalProjects q = .ok as) :
    a ∈ as ↔ ∃ s, g.projectRefusal? s = none ∧ q.canAfford s.cost = .ok true ∧
      .standardProject s = a := by
  obtain ⟨affordable, ha, ⟨⟩⟩ := bind_eq_ok.1 h
  obtain ⟨-, rfl⟩ := filterM_eq_ok.1 ha
  have all : ∀ s, s ∈ StandardProject.all := fun s => by cases s <;> decide
  simp only [List.mem_map, List.mem_filter, decide_eq_true_eq, all, true_and,
    Option.isNone_iff_eq_none, toOption_eq_some]
  exact exists_congr fun s => by rw [and_assoc, and_left_comm]

theorem legalProjects_answers (g : Game) (q : Player) : ∃ as, g.legalProjects q = .ok as := by
  have all : ∀ s ∈ StandardProject.all, ∃ b, q.canAfford s.cost = .ok b :=
    fun s _ => canAfford_project_answers q s
  obtain ⟨affordable, ha⟩ := filterM_total all
  exact ⟨_, bind_eq_ok.2 ⟨affordable, ha, rfl⟩⟩

/-- A word that stands for something is one of the words. -/
theorem mem_words_of_ofWord? {α : Type} [Vocabulary α] {w : String}
    (h : (Vocabulary.ofWord? (α := α) w).isSome = true) : w ∈ (Vocabulary.all (α := α)).map word := by
  obtain ⟨m, hm⟩ := Option.isSome_iff_exists.1 h
  have same : (word m == w) = true := List.find?_some (p := fun m => word m == w) hm
  exact List.mem_map.2 ⟨m, List.mem_of_find?_eq_some hm, beq_iff_eq.1 same⟩

theorem mem_legalMilestones :
    a ∈ g.legalMilestones q ↔ ∃ n, g.milestoneRefusal? q (some n) = none ∧ .claimMilestone n = a := by
  simp only [legalMilestones, List.mem_map, List.mem_filter, Option.isNone_iff_eq_none]
  refine exists_congr fun n => and_congr_left fun _ => and_iff_right_of_imp fun free => ?_
  obtain ⟨m, hm, known, -⟩ := milestoneRefusal?_eq_none free
  cases hm
  exact List.mem_map.1 (mem_words_of_ofWord? known)

theorem mem_legalAwards :
    a ∈ g.legalAwards q ↔ ∃ n, g.awardRefusal? q (some n) = none ∧ .fundAward n = a := by
  simp only [legalAwards, List.mem_map, List.mem_filter, Option.isNone_iff_eq_none]
  refine exists_congr fun n => and_congr_left fun _ => and_iff_right_of_imp fun free => ?_
  obtain ⟨m, cost, hm, known, -⟩ := awardRefusal?_eq_none free
  cases hm
  exact List.mem_map.1 (mem_words_of_ofWord? known)

/-- The list, part by part. -/
theorem legalActions_eq_ok (hq : g.player? p = some q) :
    g.legalActions p = .ok as ↔ ∃ plays projects, g.legalPlays q = .ok plays ∧
      g.legalProjects q = .ok projects ∧
      plays ++ legalCardActions q ++ projects ++ g.legalMilestones q ++ g.legalAwards q ++ [.pass] =
        as := by
  simp only [legalActions, player_eq_ok.2 hq, ok_bind, bind_eq_ok, pure_eq_ok, Except.ok.injEq,
    exists_and_left]

/-- There is a list exactly when it is known of every card whether it could be played. -/
theorem legalActions_answers_iff (hq : g.player? p = some q) :
    (∃ as, g.legalActions p = .ok as) ↔
      ∀ c ∈ distinctByName q.hand, ∃ answer, q.canPlay g.board c = .ok answer := by
  rw [← legalPlays_answers_iff]
  constructor
  · rintro ⟨as, h⟩
    obtain ⟨plays, projects, hp, -⟩ := (legalActions_eq_ok hq).1 h
    exact ⟨plays, hp⟩
  · rintro ⟨plays, hp⟩
    obtain ⟨projects, hs⟩ := legalProjects_answers g q
    exact ⟨_, (legalActions_eq_ok hq).2 ⟨plays, projects, hp, hs, rfl⟩⟩

/-- **An action is listed exactly when it can be started.** -/
theorem mem_legalActions (hq : g.player? p = some q) (h : g.legalActions p = .ok as) :
    a ∈ as ↔ g.Startable q a := by
  obtain ⟨plays, projects, hp, hs, rfl⟩ := (legalActions_eq_ok hq).1 h
  simp only [List.mem_append, List.mem_singleton, mem_legalPlays hp, mem_legalCardActions,
    mem_legalProjects hs, mem_legalMilestones, mem_legalAwards]
  constructor
  · rintro (((((⟨c, first, ⟨cost, playable⟩, rfl⟩ | ⟨d, inPlay, unused, n, printed, rfl⟩) |
      ⟨s, sensible, affordable, rfl⟩) | ⟨n, free, rfl⟩) | ⟨n, free, rfl⟩) | rfl)
    · exact .playCard first playable
    · exact .performAction inPlay unused printed
    · exact .standardProject sensible affordable
    · exact .claimMilestone free
    · exact .fundAward free
    · exact .pass
  · rintro (⟨first, playable⟩ | ⟨inPlay, unused, printed⟩ | ⟨sensible, affordable⟩ | free | free | _)
    · exact .inl (.inl (.inl (.inl (.inl ⟨_, first, ⟨_, playable⟩, rfl⟩))))
    · exact .inl (.inl (.inl (.inl (.inr ⟨_, inPlay, unused, _, printed, rfl⟩))))
    · exact .inl (.inl (.inl (.inr ⟨_, sensible, affordable, rfl⟩)))
    · exact .inl (.inl (.inr ⟨_, free, rfl⟩))
    · exact .inl (.inr ⟨_, free, rfl⟩)
    · exact .inr rfl

/-! ## Nothing twice -/

theorem nodup_legalPlays (h : g.legalPlays q = .ok as) : (as.map TurnAction.normal).Nodup := by
  obtain ⟨playable, hp, ⟨⟩⟩ := bind_eq_ok.1 h
  obtain ⟨-, rfl⟩ := filterM_eq_ok.1 hp
  -- The names tell the actions apart, and they can be read off the normal forms.
  have names := (nodup_names_distinctByName q.hand).sublist
    ((List.filter_sublist (p := fun c => ((do
      return (← q.canPlay g.board c).isSome) : Except Fault Bool).toOption = some true)).map (·.name))
  refine List.Nodup.of_map (fun a => (a.card.map (·.name)).getD "") ?_
  rw [List.map_map, List.map_map]
  exact names

theorem nodup_legalCardActions (ids : (q.played.map (·.instanceId)).Nodup) :
    (legalCardActions q).Nodup := by
  refine List.nodup_flatMap.2 ⟨fun d _ => ?_, ?_⟩
  · refine List.nodup_range.map fun n n' same => ?_
    exact Int.ofNat.inj (congrArg TurnAction.index same)
  · have apart := (List.pairwise_map.1 ids).sublist
      ((List.filter_sublist (p := fun d : PlayedCard => !q.tapped.contains d.instanceId)).trans
        (List.filter_sublist (p := fun d : PlayedCard => d.card.kind = .active)))
    refine apart.imp fun {d d'} other a ha ha' => ?_
    obtain ⟨n, -, rfl⟩ := List.mem_map.1 ha
    obtain ⟨n', -, same⟩ := List.mem_map.1 ha'
    exact other (Option.some.inj (congrArg TurnAction.instanceId same)).symm

/-- The part of the list with the actions of a type, given the cards and the projects. -/
def legalOfType (g : Game) (q : Player) (plays projects : List TurnAction) :
    TurnActionType → List TurnAction
  | .playCard => plays
  | .performAction => legalCardActions q
  | .standardProject => projects
  | .claimMilestone => g.legalMilestones q
  | .fundAward => g.legalAwards q
  | .pass => [.pass]

theorem flatMap_legalOfType (plays projects : List TurnAction) :
    TurnActionType.all.flatMap (g.legalOfType q plays projects) =
      plays ++ legalCardActions q ++ projects ++ g.legalMilestones q ++ g.legalAwards q ++
        [.pass] := by
  simp [TurnActionType.all, legalOfType]

/-- The parts are lists of actions of their type, and only cards come with a card. -/
theorem type_of_mem_legalOfType {plays projects : List TurnAction} (hp : g.legalPlays q = .ok plays)
    (hs : g.legalProjects q = .ok projects) {t : TurnActionType}
    (ha : a ∈ g.legalOfType q plays projects t) : a.type = t ∧ (t ≠ .playCard → a.card = none) := by
  cases t with
  | playCard =>
    obtain ⟨c, -, -, rfl⟩ := (mem_legalPlays hp).1 ha
    exact ⟨rfl, fun other => absurd rfl other⟩
  | performAction =>
    obtain ⟨d, -, -, n, -, rfl⟩ := mem_legalCardActions.1 ha
    exact ⟨rfl, fun _ => rfl⟩
  | standardProject =>
    obtain ⟨s, -, -, rfl⟩ := (mem_legalProjects hs).1 ha
    exact ⟨rfl, fun _ => rfl⟩
  | claimMilestone =>
    obtain ⟨n, -, rfl⟩ := mem_legalMilestones.1 ha
    exact ⟨rfl, fun _ => rfl⟩
  | fundAward =>
    obtain ⟨n, -, rfl⟩ := mem_legalAwards.1 ha
    exact ⟨rfl, fun _ => rfl⟩
  | pass =>
    obtain rfl := List.mem_singleton.1 ha
    exact ⟨rfl, fun _ => rfl⟩

theorem nodup_legalOfType {plays projects : List TurnAction}
    (ids : (q.played.map (·.instanceId)).Nodup) (hp : g.legalPlays q = .ok plays)
    (hs : g.legalProjects q = .ok projects) (t : TurnActionType) :
    ((g.legalOfType q plays projects t).map TurnAction.normal).Nodup := by
  by_cases cards : t = .playCard
  · subst cards
    exact nodup_legalPlays hp
  · rw [TurnAction.map_normal_of_bare fun a ha => (type_of_mem_legalOfType hp hs ha).2 cards]
    cases t with
    | playCard => exact absurd rfl cards
    | performAction => exact nodup_legalCardActions ids
    | standardProject =>
      obtain ⟨affordable, ha, ⟨⟩⟩ := bind_eq_ok.1 hs
      obtain ⟨-, rfl⟩ := filterM_eq_ok.1 ha
      have all : StandardProject.all.Nodup := by decide
      exact ((all.filter _).filter _).map fun s s' same =>
        Option.some.inj (congrArg TurnAction.project same)
    | claimMilestone =>
      have all : (Milestone.all.map word).Nodup := by decide
      exact (all.filter _).map fun n n' same => Option.some.inj (congrArg TurnAction.name same)
    | fundAward =>
      have all : (Award.all.map word).Nodup := by decide
      exact (all.filter _).map fun n n' same => Option.some.inj (congrArg TurnAction.name same)
    | pass => exact List.nodup_singleton _

/-- **Nothing is listed twice.** -/
theorem nodup_legalActions (hq : g.player? p = some q) (ids : (q.played.map (·.instanceId)).Nodup)
    (h : g.legalActions p = .ok as) : (as.map TurnAction.normal).Nodup := by
  obtain ⟨plays, projects, hp, hs, rfl⟩ := (legalActions_eq_ok hq).1 h
  rw [← flatMap_legalOfType, List.map_flatMap]
  refine List.nodup_flatMap.2 ⟨fun t _ => nodup_legalOfType ids hp hs t, ?_⟩
  have types : TurnActionType.all.Nodup := by decide
  refine types.imp fun {t t'} other a ha ha' => ?_
  obtain ⟨b, hb, rfl⟩ := List.mem_map.1 ha
  obtain ⟨b', hb', same⟩ := List.mem_map.1 ha'
  have type : b'.type = b.type := (congrArg TurnAction.type same : b'.normal.type = b.normal.type)
  rw [(type_of_mem_legalOfType hp hs hb).1, (type_of_mem_legalOfType hp hs hb').1] at type
  exact other type.symm

/-- Passing comes last, and only there. -/
theorem legalActions_pass (hq : g.player? p = some q) (ids : (q.played.map (·.instanceId)).Nodup)
    (h : g.legalActions p = .ok as) : ∃ front, as = front ++ [.pass] ∧ .pass ∉ front := by
  obtain ⟨plays, projects, -, -, rfl⟩ := (legalActions_eq_ok hq).1 h
  have once := (nodup_legalActions hq ids h).of_map
  exact ⟨_, rfl, fun again => (List.nodup_append.1 once).2.2 _ again _ (List.mem_singleton_self _) rfl⟩

/-! ## What the resolver accepts -/

/-- A card that can be played is among those of which it is asked, under its name. -/
theorem exists_startable_card {c : Card} (names : NamesTell q.hand) (held : q.holds c = true)
    (met : q.unmetRequirements g.board c = .ok []) :
    ∃ d, g.Startable q (.playCard d) ∧ d.normal = c.normal := by
  obtain ⟨c₁, hc₁, same₁⟩ := List.contains_iff_exists_mem_beq.1 held
  obtain ⟨d, hd, name⟩ := exists_mem_distinctByName hc₁
  have same : (c == d) = true :=
    BEq.trans same₁ (names c₁ hc₁ d (mem_of_mem_distinctByName hd) name.symm)
  rw [Player.unmetRequirements_alike same] at met
  obtain ⟨cost, playable⟩ := Player.unmetRequirements_eq_nil.1 met
  exact ⟨d, .playCard hd playable, (Card.beq_iff.1 same).symm⟩

theorem startable_of_performAction {i n : Int} (hq : g.player? p = some q)
    (h : g.performAction p (some i) n cs = .ok x) (accepted : ∀ r, x ≠ .unplayable r) :
    g.Startable q (.performAction i n) := by
  obtain ⟨q', hq', outcome⟩ := performAction_cases h
  cases hq.symm.trans hq'
  cases outcome with
  | refused r => exact absurd rfl (accepted r)
  | used named hd untapped there =>
    cases named
    obtain ⟨inPlay, rfl⟩ := Player.mem_of_played? hd
    obtain ⟨counted, there⟩ := Option.ite_none_right_eq_some.1 there
    obtain ⟨printed, -⟩ := List.getElem?_eq_some_iff.1 there
    rw [← Int.toNat_of_nonneg counted]
    exact .performAction inPlay untapped printed

theorem startable_of_performProject {s : StandardProject} (hq : g.player? p = some q)
    (h : g.performProject p s cs = .ok x) (accepted : ∀ r, x ≠ .unplayable r) :
    g.Startable q (.standardProject s) := by
  cases performProject_cases h with
  | refused r => exact absurd rfl (accepted r)
  | resolved sensible hq' affordable =>
    cases hq.symm.trans hq'
    exact .standardProject sensible (by rw [Player.canAfford, affordable]; rfl)

/-- **A turn that the resolver does not call unplayable can be started**, with the card under whose
name it is listed. -/
theorem startable_of_accepted (hq : g.player? p = some q) (names : NamesTell q.hand)
    (canonical : a.Canonical) (h : g.takeTurn p a cs = .ok x) (accepted : ∀ r, x ≠ .unplayable r) :
    ∃ b, g.Startable q b ∧ b.normal = a.normal := by
  cases canonical with
  | playCard c =>
    obtain ⟨q', hq', outcome⟩ := playCard_cases (show g.playCard p c cs = .ok x from h)
    cases hq.symm.trans hq'
    cases outcome with
    | refused r => exact absurd rfl (accepted r)
    | resolved allowed =>
      obtain ⟨held, met, -⟩ := playRefusal?_eq_none allowed
      obtain ⟨d, startable, same⟩ := exists_startable_card names held met
      exact ⟨.playCard d, startable, by simp only [TurnAction.normal, TurnAction.playCard,
        Option.map_some, same]⟩
  | performAction i n => exact ⟨_, startable_of_performAction hq h accepted, rfl⟩
  | standardProject s => exact ⟨_, startable_of_performProject hq h accepted, rfl⟩
  | claimMilestone n =>
    obtain ⟨q', hq', outcome⟩ :=
      claimMilestoneTurn_cases (show g.claimMilestoneTurn p (some n) = .ok x from h)
    cases hq.symm.trans hq'
    cases outcome with
    | refused r => exact absurd rfl (accepted r)
    | complete free => exact ⟨_, .claimMilestone free, rfl⟩
  | fundAward n =>
    obtain ⟨q', hq', outcome⟩ := fundAwardTurn_cases (show g.fundAwardTurn p (some n) = .ok x from h)
    cases hq.symm.trans hq'
    cases outcome with
    | refused r => exact absurd rfl (accepted r)
    | complete free => exact ⟨_, .fundAward free, rfl⟩
  | pass => exact ⟨_, .pass, rfl⟩

/-! ## Milestones and awards -/

theorem startable_claimMilestone {n : String} :
    g.Startable q (.claimMilestone n) ↔ g.milestoneRefusal? q (some n) = none := by
  refine ⟨fun h => ?_, .claimMilestone⟩
  cases h with
  | claimMilestone free => exact free

theorem startable_fundAward {n : String} :
    g.Startable q (.fundAward n) ↔ g.awardRefusal? q (some n) = none := by
  refine ⟨fun h => ?_, .fundAward⟩
  cases h with
  | fundAward free => exact free

theorem completeWith_of_accepted {ops : List Operation} {g' : Game}
    (h : g.executeAll ops = .accepted g') : g.completeWith ops = .ok (.complete ops g') :=
  bind_eq_ok.2 ⟨⟨g', ops⟩, Progress.emit_eq_ok.2 ⟨h, rfl⟩, rfl⟩

/-- A milestone that nothing speaks against is claimed at once. -/
theorem claimMilestoneTurn_completes_iff {n : String} (hq : g.player? p = some q) :
    (∃ ops g', g.claimMilestoneTurn p (some n) = .ok (.complete ops g')) ↔
      g.milestoneRefusal? q (some n) = none := by
  simp only [claimMilestoneTurn, player_eq_ok.2 hq, ok_bind]
  cases hr : g.milestoneRefusal? q (some n) with
  | some r => simp
  | none =>
    obtain ⟨g', accepted⟩ := executeAll_claimMilestone hq hr
    exact iff_of_true ⟨_, g', completeWith_of_accepted accepted⟩ rfl

/-- An award that nothing speaks against is funded at once. -/
theorem fundAwardTurn_completes_iff {n : String} (hq : g.player? p = some q) :
    (∃ ops g', g.fundAwardTurn p (some n) = .ok (.complete ops g')) ↔
      g.awardRefusal? q (some n) = none := by
  simp only [fundAwardTurn, player_eq_ok.2 hq, ok_bind]
  cases hr : g.awardRefusal? q (some n) with
  | some r => simp
  | none =>
    obtain ⟨g', accepted⟩ := executeAll_fundAward hq hr
    exact iff_of_true ⟨_, g', completeWith_of_accepted accepted⟩ rfl

end Game

/-! ## Projects that ask for nothing more -/

/-- What the impact demands is neither a decision nor refused. -/
def Impact.Prompt (i : Impact) (actor : PlayerId) (source : Option Int) : Prop :=
  ∀ g d, i.demand g actor source = .ok d → d = .skip ∨ ∃ ops, d = .perform ops

/-- Impacts that demand no decision and are not refused come to their end. -/
theorem Impact.resolve_of_prompt {actor : PlayerId} {source : Option Int} {cs : List Choice}
    {queue : List Impact} {start : Progress} {x : Attempt}
    (prompt : ∀ i ∈ queue, i.Prompt actor source)
    (h : resolve actor source cs queue start = .ok x) : ∃ ops g', x = .complete ops g' := by
  fun_induction resolve actor source cs queue start with
  | case1 cs p =>
    cases h
    exact ⟨_, _, rfl⟩
  | case5 cs p i is d hd hm ih => exact ih (List.forall_mem_cons.1 prompt).2 h
  | case7 cs p i is d hd ops hm p' he ih => exact ih (List.forall_mem_cons.1 prompt).2 h
  | case2 | case6 | case8 | case9 => cases h
  | case3 cs p i is d hd options hm | case4 cs p i is d hd r hm
  | case10 cs p i is d hd ops bonuses rest used hm rest' p' he p'' hc ih
  | case11 cs p i is d hd j mem rest hm ih =>
    rcases (List.forall_mem_cons.1 prompt).1 _ d hd with rfl | ⟨ops, rfl⟩ <;> cases hm

namespace StandardProject

/-- The projects that place nothing. -/
def isPrompt : StandardProject → Bool
  | powerPlant | asteroid | convertHeat => true
  | _ => false

theorem prompt_of_mem_impacts {s : StandardProject} {i : Impact} (prompt : s.isPrompt = true)
    (hi : i ∈ s.impacts) (actor : PlayerId) (source : Option Int) : i.Prompt actor source := by
  intro g d hd
  cases s with
  | powerPlant =>
    obtain rfl := List.mem_singleton.1 hi
    cases hd
    exact .inr ⟨_, rfl⟩
  | asteroid | convertHeat =>
    obtain rfl := List.mem_singleton.1 hi
    cases hd
    cases g.board.temperatureMaxed with
    | true => exact .inl rfl
    | false => exact .inr ⟨_, rfl⟩
  | aquifer | greenery | city | convertPlants => cases prompt

end StandardProject

namespace Game

variable {g : Game} {p : PlayerId} {q : Player} {a : TurnAction} {as : List TurnAction}
  {cs : List Choice} {x : Attempt}

/-- A project that places nothing comes to its end when it can be started, unless the resolver
fails. -/
theorem performProject_completes_iff {s : StandardProject} (prompt : s.isPrompt = true)
    (hq : g.player? p = some q) (h : g.performProject p s cs = .ok x) :
    (∃ ops g', x = .complete ops g') ↔ g.Startable q (.standardProject s) := by
  constructor
  · rintro ⟨ops, g', rfl⟩
    exact startable_of_performProject hq h fun r => nofun
  · intro startable
    cases startable with
    | standardProject sensible affordable =>
      simp only [performProject, sensible, player_eq_ok.2 hq, ok_bind] at h
      obtain ⟨payment, hp, h⟩ := bind_eq_ok.1 h
      rw [Player.canAfford, hp] at affordable
      cases payment with
      | none => cases affordable
      | some payment =>
        obtain ⟨paid, -, h⟩ := bind_eq_ok.1 h
        exact Impact.resolve_of_prompt (fun i hi =>
          StandardProject.prompt_of_mem_impacts prompt hi p none) h

/-! ## The whole list -/

/-- The list leaves nothing out and says nothing twice, for a game and one of its players. -/
structure ListsTurns (g : Game) (p : PlayerId) (q : Player) (as : List TurnAction) : Prop where
  /-- An action that the resolver does not call unplayable, with whatever answers, is listed. -/
  accepted : ∀ a, a.Canonical → ∀ cs x, g.takeTurn p a cs = .ok x → (∀ r, x ≠ .unplayable r) →
    a.normal ∈ as.map TurnAction.normal
  once : (as.map TurnAction.normal).Nodup
  pass : ∃ front, as = front ++ [.pass] ∧ .pass ∉ front
  /-- A milestone is listed exactly when claiming it comes to its end. -/
  milestones : ∀ n cs, .claimMilestone n ∈ as ↔
    ∃ ops g', g.takeTurn p (.claimMilestone n) cs = .ok (.complete ops g')
  awards : ∀ n cs, .fundAward n ∈ as ↔
    ∃ ops g', g.takeTurn p (.fundAward n) cs = .ok (.complete ops g')
  /-- So is a project that places nothing, unless the resolver fails on it. -/
  projects : ∀ s : StandardProject, s.isPrompt = true → ∀ cs x,
    g.takeTurn p (.standardProject s) cs = .ok x →
      (.standardProject s ∈ as ↔ ∃ ops g', x = .complete ops g')
  /-- A card in the hand is listed exactly when no reason is given against it. -/
  cards : ∀ c ∈ q.hand, (TurnAction.playCard c).normal ∈ as.map TurnAction.normal ↔
    q.unmetRequirements g.board c = .ok []
  costs : ∀ c ∈ q.hand, q.unmetRequirements g.board c = .ok [] ↔
    ∃ cost, q.canPlay g.board c = .ok (some cost)

theorem listed_card_iff {c : Card} (hq : g.player? p = some q) (names : NamesTell q.hand)
    (h : g.legalActions p = .ok as) (hc : c ∈ q.hand) :
    (TurnAction.playCard c).normal ∈ as.map TurnAction.normal ↔
      q.unmetRequirements g.board c = .ok [] := by
  constructor
  · intro listed
    obtain ⟨b, hb, same⟩ := List.mem_map.1 listed
    cases (mem_legalActions hq h).1 hb with
    | playCard first playable =>
      have card : Card.normal _ = c.normal := Option.some.inj (congrArg TurnAction.card same)
      rw [← Player.unmetRequirements_alike (Card.beq_iff.2 card)]
      exact Player.unmetRequirements_eq_nil.2 ⟨_, playable⟩
    | _ => cases congrArg TurnAction.type same
  · intro met
    have held : q.holds c = true := List.contains_iff_exists_mem_beq.2 ⟨c, hc, BEq.rfl⟩
    obtain ⟨d, startable, same⟩ := exists_startable_card names held met
    refine List.mem_map.2 ⟨.playCard d, (mem_legalActions hq h).2 startable, ?_⟩
    simp only [TurnAction.normal, TurnAction.playCard, Option.map_some, same]

/-- **The list of legal turns leaves nothing out.** Where cards of one name are the same and cards in
play have ids of their own, there is a list exactly when it is known of every card in the hand, one
for each name, whether it could be played; and then the resolver accepts nothing that is not
listed. -/
theorem legalActions_complete (hq : g.player? p = some q) (names : NamesTell q.hand)
    (ids : (q.played.map (·.instanceId)).Nodup) :
    ((∃ as, g.legalActions p = .ok as) ↔
        ∀ c ∈ distinctByName q.hand, ∃ answer, q.canPlay g.board c = .ok answer) ∧
      ∀ as, g.legalActions p = .ok as → g.ListsTurns p q as := by
  refine ⟨legalActions_answers_iff hq, fun as h => ?_⟩
  have listed {a : TurnAction} := mem_legalActions (a := a) hq h
  refine ⟨fun a canonical cs x ht accepted => ?_, nodup_legalActions hq ids h,
    legalActions_pass hq ids h, fun n cs => ?_, fun n cs => ?_, fun s prompt cs x ht => ?_,
    fun c hc => listed_card_iff hq names h hc, fun c _ => Player.unmetRequirements_eq_nil⟩
  · obtain ⟨b, startable, same⟩ := startable_of_accepted hq names canonical ht accepted
    exact List.mem_map.2 ⟨b, listed.2 startable, same⟩
  · exact (listed.trans startable_claimMilestone).trans (claimMilestoneTurn_completes_iff hq).symm
  · exact (listed.trans startable_fundAward).trans (fundAwardTurn_completes_iff hq).symm
  · exact listed.trans (performProject_completes_iff prompt hq ht).symm

/-! ## Where there is no list -/

/-- A game of one player. -/
def alone (q : Player) : Game where
  board := .standard
  players := Table.ofList [(1, q)]

def well : Card :=
  Design.card .active "Well" [] 4 { actions := [.free [.gainResource .megacredits 1]] }

/-- A player with one well in play, two in the hand, and the means to play them. -/
def wellKeeper : Player :=
  { id := 1, resources := Pool.zero.insert .megacredits 30, hand := [well, well],
    played := [⟨0, well⟩], nextInstance := 1 }

/-- The two wells in the hand are listed once, the one in play is listed with its action. -/
theorem legalActions_complete_wells :
    (alone wellKeeper).player? 1 = some wellKeeper ∧ NamesTell wellKeeper.hand ∧
      (wellKeeper.played.map (·.instanceId)).Nodup ∧
      ∃ as, (alone wellKeeper).legalActions 1 = .ok as ∧ (alone wellKeeper).ListsTurns 1 wellKeeper as ∧
        as.count (.playCard well) = 1 ∧ as.count (.performAction 0 0) = 1 := by
  have names : NamesTell wellKeeper.hand := by decide +kernel
  have ids : (wellKeeper.played.map (·.instanceId)).Nodup := by decide
  have lists : (((alone wellKeeper).legalActions 1).toOption.any fun as =>
      as.count (.playCard well) = 1 && as.count (.performAction 0 0) = 1) = true := by
    decide +kernel
  obtain ⟨as, h, counts⟩ := (Option.any_eq_true _ _).1 lists
  rw [Bool.and_eq_true, decide_eq_true_eq, decide_eq_true_eq] at counts
  have listed := toOption_eq_some.1 h
  exact ⟨rfl, names, ids, as, listed, (legalActions_complete rfl names ids).2 as listed, counts⟩

/-- A card that asks for event tags, which are not counted. -/
def chronicle : Card :=
  Design.card .automatic "Chronicle" [] 0 { requirements := [.minTags .event 1] }

def chronicler : Player := { id := 1, hand := [chronicle] }

/-- A player who can pay for a power plant, and is too far down in energy for one to help. -/
def debtor : Player :=
  { id := 1, resources := Pool.zero.insert .megacredits 11,
    production := Pool.zero.insert .energy (-5) }

/-- With the chronicle in the hand there is no list, not even of passing, which the resolver accepts.
And a project can be listed on which the resolver fails. -/
theorem legalActions_incomplete :
    ((alone chronicler).player? 1 = some chronicler ∧ NamesTell chronicler.hand ∧
        (chronicler.played.map (·.instanceId)).Nodup ∧ TurnAction.pass.Canonical ∧
        (∀ cs, (alone chronicler).takeTurn 1 .pass cs = .ok (.complete [] (alone chronicler))) ∧
        (alone chronicler).legalActions 1 = .error (.misuse .eventTagsNotCounted)) ∧
      ∃ as f, (alone debtor).legalActions 1 = .ok as ∧ .standardProject .powerPlant ∈ as ∧
        (alone debtor).takeTurn 1 (.standardProject .powerPlant) = .error f := by
  refine ⟨⟨rfl, by decide +kernel, by decide, .pass, fun cs => rfl, rfl⟩, ?_⟩
  have lists : (((alone debtor).legalActions 1).toOption.any fun as =>
      .standardProject .powerPlant ∈ as) = true := by decide +kernel
  obtain ⟨as, h, listed⟩ := (Option.any_eq_true _ _).1 lists
  have fails : ((alone debtor).takeTurn 1 (.standardProject .powerPlant)).toOption.isNone = true := by
    decide +kernel
  cases failed : (alone debtor).takeTurn 1 (.standardProject .powerPlant) with
  | ok x =>
    rw [failed] at fails
    cases fails
  | error f => exact ⟨as, f, toOption_eq_some.1 h, of_decide_eq_true listed, rfl⟩

end Game

end Terraforming
